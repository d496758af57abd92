/-
Path texts with `/` as separator. A path is a root, which may be absent, and its segments: empty
segments and segments `.` are dropped when a text is read, and `..` is kept. Exactly two slashes in
front are a root of their own, any other number of slashes is the common root.
-/
import SampleTypes.Text.Lines

namespace SampleTypes

/-- Where a path starts. -/
inductive Path.Root where
  /-- At the place it is used from. -/
  | relative
  | slash
  | doubleSlash
  deriving DecidableEq, Repr

/-- A path. -/
structure Path where
  root : Path.Root
  segments : List String
  deriving DecidableEq, Repr

namespace Path

/-- The text of a root. -/
def Root.text : Root → String
  | .relative => ""
  | .slash => "/"
  | .doubleSlash => "//"

/-- The root of a path text. -/
def rootOf : List Char → Root
  | '/' :: '/' :: '/' :: _ => .slash
  | '/' :: '/' :: _ => .doubleSlash
  | '/' :: _ => .slash
  | _ => .relative

/-- A segment that a path keeps. -/
def keepsSegment (s : String) : Bool :=
  s != "" && s != "."

/-- The path that a text writes. -/
def ofText (s : String) : Path where
  root := rootOf s.toList
  segments := (Text.split '/' s).filter keepsSegment

/-- The place a path is used from. -/
def here : Path := ⟨.relative, []⟩

/-- The text of a path; a path without root and segments is written `.`. -/
def text (p : Path) : String :=
  match p.root, p.segments with
  | .relative, [] => "."
  | root, segments => root.text ++ Text.join "/" segments

/-- A path starts at a root. -/
def isAbsolute (p : Path) : Bool :=
  p.root != .relative

/-- The segments with the root, if there is one, in front. -/
def parts (p : Path) : List String :=
  match p.root with
  | .relative => p.segments
  | root => root.text :: p.segments

/-- `q` as seen from `p`: an absolute `q` stands for itself. -/
def join (p q : Path) : Path :=
  match q.root with
  | .relative => ⟨p.root, p.segments ++ q.segments⟩
  | _ => q

instance : Append Path := ⟨join⟩

/-- The path of texts joined in order. -/
def ofTexts (texts : List String) : Path :=
  texts.foldl (fun p s => p ++ ofText s) here

/-- A path with one more segment. -/
def child (p : Path) (name : String) : Path :=
  ⟨p.root, p.segments ++ [name]⟩

/-- A path without its last segment. -/
def parent (p : Path) : Path :=
  ⟨p.root, p.segments.dropLast⟩

/-- The last segment; empty if there is none. -/
def name (p : Path) : String :=
  p.segments.getLast?.getD ""

/-- The part of a file name before its last dot, unless that dot starts or ends the name. -/
def stemOf (name : String) : String :=
  let cs := name.toList
  let extension := cs.reverse.takeWhile (· != '.')
  let lead := cs.length - extension.length
  if 1 < lead ∧ !extension.isEmpty then String.ofList (cs.take (lead - 1)) else name

/-- The stem of the last segment. -/
def stem (p : Path) : String :=
  stemOf p.name

end Path

end SampleTypes
