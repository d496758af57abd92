/-
Putting an entry into a table that may hold its name already. Values and tables with a line of their
own exclude each other. An implied table joins the table that is there, or the last element of an
array; elements join the array.

An implied table that does not follow the other part of its table stays a part of its own; then the
parts together must make a table (`settle`), as must the parts of the tables inside of them.
-/
import SampleTypes.Toml.Styled.Entry

namespace SampleTypes.Toml.Styled

/-! ## Clashes -/

/-- Why two entries cannot be in one table. -/
inductive Clash where
  | keyExists (name : String)
  /-- A table is opened that keys with points have made. -/
  | redefined
  /-- A table in parts would have to be indented. -/
  | scattered
  deriving DecidableEq, Repr

/-- The words for a clash. -/
def Clash.message : Clash → String
  | .keyExists name => "Key \"" ++ name ++ "\" already exists."
  | .redefined => "Redefinition of an existing table"
  | .scattered => "'OutOfOrderTableProxy' object has no attribute 'trivia'"

/-! ## Indentation -/

/-- The first run of spaces in an indentation. -/
def firstSpaces (indent : String) : List Char :=
  (indent.toList.dropWhile (· != ' ')).takeWhile (· == ' ')

/-- An indentation with more spaces. -/
def indented (spaces : List Char) (indent : String) : String :=
  let cs := indent.toList
  String.ofList (cs.takeWhile (· != ' ') ++ spaces ++ cs.dropWhile (· != ' '))

/-- A margin with another indentation. -/
def Margin.mapIndent (f : String → String) (m : Margin) : Margin :=
  { m with indent := f m.indent }

/-- A heading with another indentation. -/
def Heading.mapIndent (f : String → String) (h : Heading) : Heading :=
  { h with margin := h.margin.mapIndent f }

/-- An entry with another indentation; arrays of tables have none of their own. -/
def Entry.mapIndent (f : String → String) : Entry → Entry
  | .value key literal margin => .value key literal (margin.mapIndent f)
  | .table key heading body => .table key (heading.mapIndent f) body
  | e => e

/-! ## Tables in parts -/

/-- Puts an entry behind others; only the parts of a table have one name. -/
def addPart (body : Body) (e : Entry) : Except Clash Body :=
  match e.name? with
  | none => .ok (body ++ [e])
  | some name =>
    match lastNamed? name body with
    | none | some (.table _ _ _) => .ok (body ++ [e])
    | some _ => .error (.keyExists name)

/-- What is in a table that is written in parts. -/
def gathered (name : String) (body : Body) : Except Clash Body :=
  ((named name body).flatMap Entry.inner).foldlM addPart []

/-- A table that is written in parts has no name twice, but for those of tables. -/
def checkParts (name : String) (body : Body) : Except Clash Unit :=
  if isInParts name body then (gathered name body).map (fun _ => ()) else .ok ()

/-- Indents the entry with a name as the table is indented into which it has come. -/
def indentNamed (spaces : List Char) (name : String) (body : Body) : Except Clash Body :=
  if spaces.isEmpty then .ok body
  else if isInParts name body then .error .scattered
  else .ok (body.map (fun e => if e.isNamed name then e.mapIndent (indented spaces) else e))

/-! ## Placing -/

mutual

/-- Puts an entry behind others, with a bound for the levels. Beside all of them it returns the entry
as it stands then: what joins an implied table is indented with it. -/
def placeWithin : Nat → (isChecked : Bool) → Entry → Body → Except Clash (Body × Entry)
  | 0, _, e, body => .ok (body ++ [e], e)
  | fuel + 1, isChecked, e, body =>
    match e with
    | .table key h inner =>
      match lastNamed? key.name body with
      | none => .ok (body ++ [e], e)
      | some (.table old oldHeading oldInner) =>
        if h.isElement then
          let array := Entry.tables key [(oldHeading, oldInner), (h, inner)]
          .ok (replaceAll key.name array.reheaded body, e)
        else if !oldHeading.isImplied then
          if h.isImplied then .ok (body ++ [e], e) else .error (.keyExists key.name)
        else if !h.isImplied then
          if old.isDotted then .error .redefined else .ok (body ++ [e], e)
        else if key.isDotted || old.isDotted || lastTable? body != some old.name then do
          if isChecked then
            let body ← settleWithin fuel key.name (body ++ [e])
            return (body, body.getLast?.getD e)
          else return (body ++ [e], e)
        else do
          let (joined, inner) ← joinWithin fuel oldHeading oldInner inner
          return (replaceLast key.name (.table old oldHeading joined) body, .table key h inner)
      | some (.tables old elements) =>
        if h.isElement then
          .ok (replaceLast key.name (.tables old (elements ++ [(h, inner)])) body, e)
        else
          match h.isImplied, elements.getLast? with
          | true, some (lastHeading, lastBody) => do
            let (joined, inner) ← joinWithin fuel lastHeading lastBody inner
            let elements := elements.dropLast ++ [(lastHeading, joined)]
            return (replaceLast key.name (.tables old elements) body, .table key h inner)
          | _, _ => .error (.keyExists key.name)
      | some _ => .error (.keyExists key.name)
    | .tables key more =>
      match lastNamed? key.name body with
      | none => .ok (body ++ [e], e)
      | some (.tables old elements) =>
        .ok (replaceLast key.name (.tables old (elements ++ more)) body, e)
      | some _ => .error (.keyExists key.name)
    | .value key _ _ =>
      if (lastNamed? key.name body).isSome then .error (.keyExists key.name)
      else .ok (body ++ [e], e)
    | _ => .ok (body ++ [e], e)

/-- Puts entries into the body of a table with a heading; returns the body, and the entries as they
stand then. -/
def joinWithin : Nat → Heading → Body → Body → Except Clash (Body × Body)
  | 0, _, body, more => .ok (body ++ more, more)
  | fuel + 1, h, body, more =>
    let spaces := firstSpaces h.margin.indent
    more.foldlM (fun (body, placed) e => do
      let isNew := e.name?.all (fun name => (named name body).isEmpty)
      let (body, e) ← placeWithin fuel true e body
      e.name?.forM (checkParts · body)
      let body ← (e.name?.map (indentNamed spaces · body)).getD (.ok body)
      return (body, placed ++ [if isNew then e.mapIndent (indented spaces) else e])) (body, [])

/-- The parts of a table make a table, with a bound for the levels; returns all entries as they stand
then. -/
def settleWithin : Nat → String → Body → Except Clash Body
  | 0, _, body => .ok body
  | fuel + 1, name, body =>
    if isInParts name body then do
      let (joined, settled) ← body.foldlM (fun (joined, settled) e => do
        match e with
        | .table key h inner =>
          if key.name = name then
            let (joined, inner) ← inner.foldlM (fun (joined, inner) e => do
              let (joined, e) ← placeWithin fuel false e joined
              return (joined, inner ++ [e])) (joined, [])
            return (joined, settled ++ [.table key h inner])
          else return (joined, settled ++ [e])
        | e => return (joined, settled ++ [e])) ([], [])
      (names joined).forM (fun name => (settleWithin fuel name joined).map (fun _ => ()))
      return settled
    else .ok body

end

/-- A bound for the steps of placing: three for each level. -/
def placingBound (body : Body) : Nat :=
  3 * bodyLevels body + 3

/-- Puts an entry behind others; the parts of its table are checked if asked for. -/
def place (isChecked : Bool) (e : Entry) (body : Body) : Except Clash Body :=
  (placeWithin (placingBound (e :: body)) isChecked e body).map Prod.fst

/-- All tables that are written in parts are tables. -/
def settle (body : Body) : Except Clash Body :=
  (names body).eraseDups.foldlM (fun body name => settleWithin (placingBound body) name body) body

/-- Puts an entry into the body of a table, where only keys with points have their tables checked
at once. -/
def addTo (body : Body) (e : Entry) : Except Clash Body := do
  let body ← place (e.key?.any Key.isDotted) e body
  e.name?.forM (checkParts · body)
  return body

end SampleTypes.Toml.Styled
