/-
A tree of files and directories, and the place in it from which relative paths are read. There are
no links: a location has one name.

`node?_put_self` and `node?_put_other` say what storing something at a location does to all others.
-/
import SampleTypes.Assoc
import SampleTypes.Files.Error
import SampleTypes.Text.Half

namespace SampleTypes.Files

/-! ## The tree -/

/-- The names from the root of the tree on. -/
abbrev Location := List String

/-- What is at a location. -/
inductive Node where
  /-- A file with its contents and its permission bits. -/
  | file (bytes : List UInt8) (mode : Nat)
  | directory
  deriving DecidableEq, Repr

/-- A tree of files. -/
structure Disk where
  /-- What is at every location but the root, which is always a directory. -/
  nodes : Assoc Location Node
  /-- Where relative paths start. -/
  workingDirectory : Location
  /-- The permission bits that new files do not get. -/
  mask : Nat
  /-- What tells the names of temporary files apart. -/
  token : String
  /-- The characters that stand for halves of surrogate pairs in what is read from texts. The texts
  themselves hold none of them. -/
  halves : Text.Halves := .standard
  deriving DecidableEq

namespace Disk

/-- What is at a location. -/
def node? (d : Disk) (location : Location) : Option Node :=
  if location = [] then some .directory else d.nodes.get? location

/-- Stores something at a location. -/
def put (d : Disk) (location : Location) (node : Node) : Disk :=
  { d with nodes := d.nodes.set location node }

/-- Takes away what is at a location. -/
def remove (d : Disk) (location : Location) : Disk :=
  { d with nodes := d.nodes.erase location }

theorem node?_put_self (d : Disk) {location : Location} (h : location ≠ []) (node : Node) :
    (d.put location node).node? location = some node := by
  simp [node?, put, h]

theorem node?_put_other (d : Disk) {location other : Location} (h : other ≠ location)
    (node : Node) : (d.put location node).node? other = d.node? other := by
  simp [node?, put, Assoc.get?_set_other h]

theorem node?_remove_self (d : Disk) {location : Location} (h : location ≠ []) :
    (d.remove location).node? location = none := by
  simp [node?, remove, h, Assoc.get?_erase_self]

theorem node?_remove_other (d : Disk) {location other : Location} (h : other ≠ location) :
    (d.remove location).node? other = d.node? other := by
  simp [node?, remove, Assoc.get?_erase_other h]

/-! ## Halves -/

/-- The characters that a text in UTF-8 holds or can write as escapes. -/
def charsOf (bytes : List UInt8) : List Char :=
  match Text.Utf8.decode bytes with
  | .ok text => Text.Halves.charsIn text.toList
  | .error _ => []

/-- The characters in all files. -/
def chars (d : Disk) : List Char :=
  d.nodes.flatMap (fun (_, node) =>
    match node with
    | .file bytes _ => charsOf bytes
    | .directory => [])

/-- The disk with a block for halves that its files, and another text, leave free. -/
def withFreeHalves (d : Disk) (text : List UInt8) : Disk :=
  { d with halves := .avoiding (d.chars ++ charsOf text) }

/-! ## Paths -/

/-- The greatest number of bytes in a name. -/
def maxName : Nat := 255

/-- The greatest number of bytes in a path. -/
def maxPath : Nat := 4095

/-- Follows names from a location on. Every location that is passed has to be a directory. -/
def follow (d : Disk) : Location → List String → Except Cause Location
  | location, [] => .ok location
  | location, name :: names =>
    match d.node? location with
    | none => .error .missing
    | some (.file _ _) => .error .notDirectory
    | some .directory =>
      if name = ".." then follow d location.dropLast names
      else if maxName < name.utf8ByteSize then .error .nameTooLong
      else follow d (location ++ [name]) names

/-- Where a path starts. -/
def start (d : Disk) (p : Path) : Location :=
  if p.isAbsolute then [] else d.workingDirectory

/-- The error of a path that the system refuses. -/
def refuse (p : Path) (cause : Cause) : Error :=
  .refused cause p none

/-- The location that a path leads to; nothing needs to be there. -/
def locate (d : Disk) (p : Path) : Except Error Location :=
  if '\x00' ∈ p.text.toList then .error .nullCharacter
  else if maxPath < p.text.utf8ByteSize then .error (refuse p .nameTooLong)
  else (d.follow (d.start p) p.segments).mapError (refuse p)

/-- What a path leads to. -/
def find (d : Disk) (p : Path) : Except Error (Location × Node) :=
  match d.locate p with
  | .error e => .error e
  | .ok location =>
    match d.node? location with
    | none => .error (refuse p .missing)
    | some node => .ok (location, node)

/-- What a path leads to, if anything; a path that leads nowhere is no error. -/
def look (d : Disk) (p : Path) : Except Error (Option Node) :=
  match d.find p with
  | .ok (_, node) => .ok (some node)
  | .error .nullCharacter => .ok none
  | .error (.refused .missing _ _) => .ok none
  | .error (.refused .notDirectory _ _) => .ok none
  | .error e => .error e

/-- A path leads to something. -/
def exists? (d : Disk) (p : Path) : Except Error Bool :=
  (d.look p).map Option.isSome

/-- A path leads to a file. -/
def isFile (d : Disk) (p : Path) : Except Error Bool :=
  (d.look p).map (fun node => match node with
    | some (.file _ _) => true
    | _ => false)

/-- A path leads to a directory. -/
def isDirectory (d : Disk) (p : Path) : Except Error Bool :=
  (d.look p).map (fun node => node == some .directory)

/-- A path text that can only name a directory: it ends in a slash or a dot for the place itself. -/
def namesDirectory (text : String) : Bool :=
  (Text.split '/' text).getLast?.any (fun name => name == "" || name == ".")

/-- What a path text leads to, if the system finds anything there. -/
def lookAt (d : Disk) (text : String) : Except Error (Option Node) :=
  if '\x00' ∈ text.toList then .error .nullCharacter
  else if text = "" then .ok none
  else
    match d.find (Path.ofText text) with
    | .error _ => .ok none
    | .ok (_, .directory) => .ok (some .directory)
    | .ok (_, node) => .ok (if namesDirectory text then none else some node)

/-! ## Complete paths -/

/-- One more step from a location, where `..` leads to the directory above. -/
def stepTo (location : Location) (name : String) : Location :=
  if name = ".." then location.dropLast else location ++ [name]

/-- The location that the words of a path name, whether or not anything is there. -/
def complete (d : Disk) (p : Path) : Except Error Location :=
  if '\x00' ∈ p.text.toList then .error .nullCharacter
  else .ok (p.segments.foldl stepTo (d.start p))

/-- The path of a location. -/
def pathOf (location : Location) : Path :=
  ⟨.slash, location⟩

/-! ## Reading -/

/-- The bytes of a file. -/
def readBytes (d : Disk) (p : Path) : Except Error (List UInt8) :=
  match d.find p with
  | .error e => .error e
  | .ok (_, .directory) => .error (refuse p .isDirectory)
  | .ok (_, .file bytes _) => .ok bytes

/-- Bytes as text with one kind of line breaks. -/
def textOf (bytes : List UInt8) : Except Error String :=
  match Text.Utf8.decode bytes with
  | .error reason => .error (.undecodable reason)
  | .ok text => .ok (String.ofList (Text.unifyBreaks text.toList))

/-- The text of a file. -/
def readText (d : Disk) (p : Path) : Except Error String :=
  match d.readBytes p with
  | .error e => .error e
  | .ok bytes => textOf bytes

end Disk

end SampleTypes.Files
