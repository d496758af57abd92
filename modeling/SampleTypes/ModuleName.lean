/-
Dotted module names: made from documentation paths and URLs, and placed in the file tree.
-/
import SampleTypes.Naming
import SampleTypes.Path
import SampleTypes.Url

namespace SampleTypes.ModuleName

/-- Name segments with dots between them; empty ones are left out. -/
def ofSegments (segments : List String) : String :=
  Text.join "." (segments.filter (· != ""))

/--
The module name of a documentation path below a module prefix: every component of the path but the
first one, where a root counts as a component, adds a segment.
-/
def ofPath (lead path : String) : String :=
  ofSegments (lead :: ((Path.ofText path).parts.drop 1).map pascalCase)

/-- The module name of a documentation URL: that of its path component. -/
def ofUrl (lead url : String) : Except Url.Error String :=
  (Url.path? url).map (ofPath lead)

/-- A file extension without dots in front. -/
def bareExtension (extension : String) : String :=
  String.ofList (extension.toList.dropWhile (· == '.'))

theorem head?_bareExtension (extension : String) :
    (bareExtension extension).toList.head? ≠ some '.' := by
  intro h
  rw [bareExtension, String.toList_ofList] at h
  have hnot := List.head?_dropWhile_not (· == '.') extension.toList
  rw [h] at hnot
  exact absurd hnot (by decide)

/-- Only dots are left out. -/
theorem mem_bareExtension {c : Char} (hc : c ≠ '.') {extension : String} :
    c ∈ (bareExtension extension).toList ↔ c ∈ extension.toList := by
  rw [bareExtension, String.toList_ofList]
  induction extension.toList with
  | nil => rfl
  | cons d rest ih =>
    by_cases hd : d = '.'
    · simp [hd, hc, ih]
    · simp [hd]

/-- Appends to the last of some texts. -/
def appendToLast (suffix : String) : List String → List String
  | [] => []
  | [s] => [s ++ suffix]
  | s :: t :: rest => s :: appendToLast suffix (t :: rest)

/-- The source file of a module: a directory for every segment but the last. -/
def filePath (name extension : String) : Path :=
  Path.ofTexts (appendToLast ("." ++ bareExtension extension) (Text.split '.' name))

/--
The documentation path that stands for an input file: its stem, with dashes, spaces and dots as
underscores. Standard input, named `-`, has none.
-/
def docPathOfSource (source : String) : Option String :=
  if source = "-" then none
  else
    let stem := (Path.ofText source).stem
    let stem := Text.replaceEach (fun c => if c ∈ ['-', ' ', '.'] then ['_'] else [c]) stem
    if stem = "" then none else some ("/" ++ stem)

end SampleTypes.ModuleName
