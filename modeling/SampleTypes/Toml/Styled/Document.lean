/-
Reading documents: the lines in front of the first header, and then tables. A table reaches up to
the next header that does not lead into it; a header that passes over names makes implied tables.
The elements of an array are read together as long as nothing stands between them.
-/
import SampleTypes.Toml.Styled.Line

namespace SampleTypes.Toml.Styled

/-! ## Headers -/

/-- The names that lead to a table. -/
abbrev Path := List String

/-- The line that opens a table. -/
structure Header where
  keys : List Key
  isElement : Bool
  margin : Margin

namespace Header

/-- The names that lead to the table. -/
def path (h : Header) : Path :=
  h.keys.map Key.name

/-- The names as they are written. -/
def shown (h : Header) : String :=
  Text.join "." (h.keys.map Key.text)

/-- The heading of the table itself. -/
def heading (h : Header) : Heading :=
  { margin := h.margin, isElement := h.isElement, shown := some h.shown }

end Header

/-- Reads the brackets and keys of a header, which follow spacing. -/
def readOpening (s : List Char) : Reads ((Bool × List Key) × List Char) := do
  let rest := (s.dropWhile isLineGap).drop 1
  let isElement := rest.head? = some '['
  let (keys, rest) ← keysAt (if isElement then rest.drop 1 else rest)
  return ((isElement, keys), rest)

/-- The next header leads to a table by the names, and opens an element. -/
def nextPath (s : List Char) : Reads (Bool × Path) :=
  (readOpening s).map (fun ((isElement, keys), _) => (isElement, keys.map Key.name))

/-- Reads a header. -/
def readHeader (s : List Char) : Reads (Header × List Char) := do
  let ((isElement, keys), rest) ← readOpening s
  match rest with
  | ']' :: rest =>
    let (margin, rest) ← readEnding (if isElement then rest.drop 1 else rest)
    let indent := String.ofList (s.takeWhile isLineGap)
    return ({ keys := keys, isElement := isElement, margin := { margin with indent := indent } }, rest)
  | rest => .error (.unexpected rest)

/-- A table lies inside of another one. -/
def isInside (outer inner : Path) : Bool :=
  outer != inner && outer.isPrefixOf inner

/-! ## Tables -/

/-- Reads a table that lies in the table with a path. -/
abbrev ReadTable := Path → List Char → Reads (Entry × List Char)

/-- Puts an entry into a table. -/
def addEntry (body : Body) (e : Entry) : Except Stop Body :=
  (addTo body e).mapError .clash

/-- Reads the tables inside of a table with a path. -/
def readInner (read : ReadTable) (path : Path) : (fuel : Nat) → Body → List Char →
    Reads (Body × List Char)
  | 0, body, s => .ok (body, s)
  | _ + 1, body, [] => .ok (body, [])
  | fuel + 1, body, s => do
    let (_, next) ← nextPath s
    if isInside path next then
      let (e, rest) ← read path s
      readInner read path fuel (← addEntry body e) rest
    else return (body, s)

/-- Reads what is in a table: its lines, and the tables inside of it. -/
def readBody (read : ReadTable) (path : Path) (s : List Char) : Reads (Body × List Char) := do
  let (body, rest) ← readLines addEntry s.length [] s
  let (body, rest) ← readInner read path rest.length body rest
  return (← (settle body).mapError .clash, rest)

/-- Reads the further elements of an array with a path. -/
def readSiblings (read : ReadTable) (path : Path) : (fuel : Nat) → List (Heading × Body) →
    List Char → Reads (List (Heading × Body) × List Char)
  | 0, elements, s => .ok (elements, s)
  | _ + 1, elements, [] => .ok (elements, [])
  | fuel + 1, elements, s => do
    let (isElement, next) ← nextPath s
    if isElement && next == path then
      let (h, rest) ← readHeader s
      let (body, rest) ← readBody read path rest
      readSiblings read path fuel (elements ++ [(h.heading, body)]) rest
    else return (elements, s)

/-- A table below implied ones, of which the header is that of the table. -/
def belowImplied (h : Header) (body : Body) : List Key → Option Entry
  | [] => none
  | [key] =>
    some (if h.isElement then .tables key [(h.heading, body)] else .table key h.heading body)
  | key :: rest =>
    (belowImplied h body rest).map (fun e => .table key { margin := h.margin, isImplied := true } [e])

/--
The entry that a header makes whose keys pass over names. The outermost table is not indented; it is
an element if its name is the path of an array that is being read.
-/
def passingEntry (h : Header) (arrays : List Path) (body : Body) : List Key → Option Entry
  | [] => none
  | key :: rest =>
    let heading : Heading :=
      { margin := { h.margin with indent := "" }
        isElement := h.isElement && arrays.contains [key.name]
        isImplied := true }
    (belowImplied h body rest).map (fun e => .table key heading [e])

/--
Reads a table that lies in the table with the path `outer`. `arrays` are the paths of the arrays
that are being read, the innermost last; `fuel` bounds the depth.
-/
def readTable : (fuel : Nat) → (arrays : List Path) → ReadTable
  | 0, _, _, _ => .error .malformed
  | fuel + 1, arrays, outer, s => do
    let (h, rest) ← readHeader s
    let (body, rest) ← readBody (readTable fuel arrays) h.path rest
    match h.keys.drop outer.length with
    | [key] =>
      if h.isElement && arrays.getLast? != some h.path then
        let read := readTable fuel (arrays ++ [h.path])
        let (elements, rest) ← readSiblings read h.path rest.length [(h.heading, body)] rest
        return (.tables key elements, rest)
      else return (.table key h.heading body, rest)
    | keys =>
      match passingEntry h arrays body keys with
      | some e => return (e, rest)
      | none => .error .malformed

/-! ## Documents -/

/-- Puts an entry into the outermost table, where a clash makes the text malformed. -/
def addOutermost (body : Body) (e : Entry) : Except Stop Body :=
  (place true e body).mapError (fun _ => .malformed)

/-- Reads the tables of a document. -/
def readTables : (fuel : Nat) → Body → List Char → Reads Body
  | 0, body, _ | _, body, [] => .ok body
  | fuel + 1, body, s => do
    let (e, rest) ← readTable (s.length + 1) [] [] s
    readTables fuel (← addOutermost body e) rest

/-- Reads a document. -/
def readDocument (text : String) : Reads Body := do
  let s := text.toList
  let (body, rest) ← readLines addOutermost s.length [] s
  readTables rest.length body rest

end SampleTypes.Toml.Styled
