/-
Tables in Markdown. The widths of the columns grow row by row, until a row has more cells than there
are columns (`widenAll_eq_none_iff`); in the end a column is as wide as its longest text
(`getElem?_widenAll_headers`). A line is texts between bars, so where a cell stands is told by the
widths of the columns before it (`standsAt_rowLine`) and is the same on all lines
(`table_rectangular`).
-/
import SampleTypes.Proofs.Haskell.Columns
import SampleTypes.Report.Markdown

namespace SampleTypes.Report.Markdown

open Text Haskell

variable {widths ws : List Nat} {headers row cells texts : List String} {rows : List (List String)}

/-! ## Widths -/

theorem widen_eq_none_iff : widen widths row = none ↔ widths.length < row.length := by
  fun_induction widen widths row with
  | case1 widths => simp
  | case2 cell row => simp
  | case3 w widths cell row ih => simp [ih]

theorem length_widen (h : widen widths row = some ws) : ws.length = widths.length := by
  fun_induction widen widths row generalizing ws with
  | case1 widths => rw [Option.some.inj h]
  | case2 cell row => cases h
  | case3 w widths cell row ih =>
    obtain ⟨ws, hws, rfl⟩ := Option.map_eq_some_iff.1 h
    rw [List.length_cons, List.length_cons, ih hws]

/-- The first row that is too long ends the work, since the number of columns never changes. -/
theorem widenAll_eq_none_iff :
    widenAll widths rows = none ↔ ∃ row ∈ rows, widths.length < row.length := by
  induction rows generalizing widths with
  | nil => simp [widenAll]
  | cons row rows ih =>
    rw [widenAll, List.exists_mem_cons_iff, ← widen_eq_none_iff]
    cases h : widen widths row with
    | none => simp
    | some ws => simp [ih, length_widen h]

/-- The texts of a column; a row that is too short has none there. -/
def column (rows : List (List String)) (j : Nat) : List String :=
  rows.filterMap (·[j]?)

theorem column_cons (row : List String) (rows : List (List String)) (j : Nat) :
    column (row :: rows) j = row[j]?.toList ++ column rows j := by
  rw [column, List.filterMap_cons]
  cases row[j]? <;> rfl

theorem getElem?_widen (h : widen widths row = some ws) (j : Nat) :
    ws[j]? = widths[j]?.map ((row[j]?.toList.map String.length).foldl max) := by
  fun_induction widen widths row generalizing ws j with
  | case1 widths =>
    obtain rfl := Option.some.inj h
    cases widths[j]? <;> simp
  | case2 cell row => cases h
  | case3 w widths cell row ih =>
    obtain ⟨ws, hws, rfl⟩ := Option.map_eq_some_iff.1 h
    cases j with
    | zero => rfl
    | succ j => exact ih hws j

theorem getElem?_widenAll (h : widenAll widths rows = some ws) (j : Nat) :
    ws[j]? = widths[j]?.map (((column rows j).map String.length).foldl max) := by
  induction rows generalizing widths with
  | nil =>
    obtain rfl := Option.some.inj h
    cases widths[j]? <;> simp [column]
  | cons row rows ih =>
    obtain ⟨next, hnext, hrest⟩ := Option.bind_eq_some_iff.1 h
    rw [ih hrest, getElem?_widen hnext, Option.map_map, column_cons]
    congr 1
    funext w
    rw [List.map_append, List.foldl_append]
    rfl

/-- The columns of headers and rows are as wide as the longest text in them. -/
theorem getElem?_widenAll_headers (h : widenAll (headers.map String.length) rows = some ws)
    (j : Nat) : ws[j]? = headers[j]?.map fun _ => longest (column (headers :: rows) j) := by
  rw [getElem?_widenAll h, List.getElem?_map, column_cons]
  cases headers[j]? with
  | none => rfl
  | some header => simp [longest]

theorem length_widenAll_headers (h : widenAll (headers.map String.length) rows = some ws) :
    ws.length = headers.length := by
  have hlengths (j : Nat) : ws.length ≤ j ↔ headers.length ≤ j := by
    rw [← List.getElem?_eq_none_iff, ← List.getElem?_eq_none_iff, getElem?_widenAll_headers h,
      Option.map_eq_none_iff]
  exact Nat.le_antisymm ((hlengths _).2 (Nat.le_refl _)) ((hlengths _).1 (Nat.le_refl _))

/-! ## Texts between bars -/

/-- Texts with a bar in front of each and one behind the last. -/
def barred (texts : List String) : String :=
  "| " ++ join " | " texts ++ " |"

theorem barred_singleton (s : String) : barred [s] = "| " ++ s ++ " |" :=
  rfl

theorem barred_cons_cons (s t : String) (rest : List String) :
    barred (s :: t :: rest) = "| " ++ s ++ " " ++ barred (t :: rest) := by
  have hbar : " | " = " " ++ "| " := rfl
  simp only [barred, join, hbar, String.append_assoc]

theorem length_barred (h : texts ≠ []) :
    (barred texts).length = 1 + ((texts.map String.length).map (· + 3)).sum := by
  have hfront : "| ".length = 2 := rfl
  have hend : " |".length = 2 := rfl
  have hspace : " ".length = 1 := rfl
  fun_induction join " | " texts with
  | case1 => exact absurd rfl h
  | case2 s =>
    simp only [barred_singleton, String.length_append, hfront, hend, List.map_cons, List.map_nil,
      List.sum_cons, List.sum_nil]
    omega
  | case3 s t rest ih =>
    simp only [barred_cons_cons, String.length_append, ih (List.cons_ne_nil t rest), hfront, hspace,
      List.map_cons, List.sum_cons]
    omega

/-- Where a column starts: behind the columns before it and a bar. -/
def columnStart (widths : List Nat) (j : Nat) : Nat :=
  ((widths.take j).map (· + 3)).sum + 2

theorem columnStart_cons_succ (w : Nat) (widths : List Nat) (j : Nat) :
    columnStart (w :: widths) (j + 1) = w + 3 + columnStart widths j := by
  rw [columnStart, List.take_succ_cons, List.map_cons, List.sum_cons, Nat.add_assoc]
  rfl

theorem exists_barred_cons_eq (s : String) (rest : List String) :
    ∃ after, barred (s :: rest) = "| " ++ s ++ " |" ++ after := by
  cases rest with
  | nil => exact ⟨"", String.append_empty.symm⟩
  | cons t rest =>
    refine ⟨" " ++ join " | " (t :: rest) ++ " |", ?_⟩
    have hbar : " | " = " |" ++ " " := rfl
    simp only [barred, join, hbar, String.append_assoc]

/-- A text stands between two bars, behind the texts before it. -/
theorem exists_barred_eq {j : Nat} {s : String} (h : texts[j]? = some s) :
    ∃ before after, barred texts = before ++ "| " ++ s ++ " |" ++ after ∧
      (before ++ "| ").length = columnStart (texts.map String.length) j := by
  induction texts generalizing j with
  | nil => cases h
  | cons first rest ih =>
    cases j with
    | zero =>
      obtain rfl := Option.some.inj h
      obtain ⟨after, hafter⟩ := exists_barred_cons_eq first rest
      exact ⟨"", after, hafter, rfl⟩
    | succ j =>
      cases rest with
      | nil => cases h
      | cons second rest =>
        obtain ⟨before, after, hline, hstart⟩ := ih h
        refine ⟨"| " ++ first ++ " " ++ before, after, ?_, ?_⟩
        · rw [barred_cons_cons, hline]
          simp only [String.append_assoc]
        · have hfront : "| ".length = 2 := rfl
          have hspace : " ".length = 1 := rfl
          rw [List.map_cons, columnStart_cons_succ, ← hstart, String.append_assoc,
            String.length_append, String.length_append, String.length_append, hfront, hspace]
          omega

/-! ## Lines -/

/-- No cell is wider than its column. -/
def Fits (widths : List Nat) (cells : List String) : Prop :=
  ∀ (j w : Nat) (cell : String), widths[j]? = some w → cells[j]? = some cell → cell.length ≤ w

theorem fits_of_mem (h : widenAll (headers.map String.length) rows = some ws)
    (hcells : cells ∈ headers :: rows) : Fits ws cells := by
  intro j w cell hw hcell
  rw [getElem?_widenAll_headers h, Option.map_eq_some_iff] at hw
  obtain ⟨_, -, rfl⟩ := hw
  exact length_le_longest (List.mem_filterMap.2 ⟨cells, hcells, hcell⟩)

theorem fits_ruleCells (widths : List Nat) : Fits widths (ruleCells widths) := by
  intro j w cell hw hcell
  rw [ruleCells, List.getElem?_map, hw] at hcell
  obtain rfl := Option.some.inj hcell
  simp

theorem rowLine_eq (widths : List Nat) (cells : List String) :
    rowLine widths cells = barred (List.zipWith padEnd widths cells) :=
  rfl

/-- Cells that fit are filled up to the widths of their columns. -/
theorem map_length_filled (h : Fits widths cells) :
    (List.zipWith padEnd widths cells).map String.length = widths.take cells.length := by
  apply List.ext_getElem?
  intro j
  rw [List.getElem?_map, List.getElem?_zipWith]
  cases hcell : cells[j]? with
  | none =>
    have hj : cells.length ≤ j := List.getElem?_eq_none_iff.1 hcell
    rw [List.getElem?_take_eq_none hj]
    cases widths[j]? <;> rfl
  | some cell =>
    obtain ⟨hj, -⟩ := List.getElem?_eq_some_iff.1 hcell
    rw [List.getElem?_take_of_lt hj]
    cases hw : widths[j]? with
    | none => rfl
    | some w => simp [length_padEnd, h j w cell hw hcell]

/-- A cell stands in a line between two bars, filled up to the width of its column. -/
def StandsAt (line : String) (place w : Nat) (cell : String) : Prop :=
  ∃ before after, line = before ++ "| " ++ padEnd w cell ++ " |" ++ after ∧
    (before ++ "| ").length = place ∧ (padEnd w cell).length = w

/-- A cell that fits starts where its column does. -/
theorem standsAt_rowLine (h : Fits widths cells) {j w : Nat} {cell : String}
    (hw : widths[j]? = some w) (hcell : cells[j]? = some cell) :
    StandsAt (rowLine widths cells) (columnStart widths j) w cell := by
  obtain ⟨hj, -⟩ := List.getElem?_eq_some_iff.1 hcell
  have hfilled : (List.zipWith padEnd widths cells)[j]? = some (padEnd w cell) := by
    rw [List.getElem?_zipWith, hw, hcell]
  obtain ⟨before, after, hline, hstart⟩ := exists_barred_eq hfilled
  refine ⟨before, after, hline, ?_, ?_⟩
  · rw [hstart, map_length_filled h, columnStart, columnStart, List.take_take,
      Nat.min_eq_left (Nat.le_of_lt hj)]
  · rw [length_padEnd, Nat.max_eq_left (h j w cell hw hcell)]

/-- A row that fills its columns takes the widths of all of them, and three characters with each. -/
theorem length_rowLine (h : Fits widths cells) (hne : widths ≠ [])
    (hlength : cells.length = widths.length) :
    (rowLine widths cells).length = 1 + (widths.map (· + 3)).sum := by
  have hfilled : List.zipWith padEnd widths cells ≠ [] := by
    rw [← List.length_pos_iff, List.length_zipWith, hlength, Nat.min_self]
    exact List.length_pos_iff.2 hne
  rw [rowLine_eq, length_barred hfilled, map_length_filled h, hlength, List.take_length]

theorem avoids_rowLine (h : ∀ cell ∈ cells, Avoids '\n' cell) :
    Avoids '\n' (rowLine widths cells) := by
  have hfilled : ∀ text ∈ List.zipWith padEnd widths cells, Avoids '\n' text := by
    intro text htext
    obtain ⟨j, hj⟩ := List.mem_iff_getElem?.1 htext
    obtain ⟨w, cell, -, hcell, rfl⟩ := List.getElem?_zipWith_eq_some.1 hj
    exact (avoids_padEnd (by decide)).2 (h cell (List.mem_of_getElem? hcell))
  have hfront : Avoids '\n' "| " := by decide
  have hend : Avoids '\n' " |" := by decide
  rw [rowLine, avoids_append, avoids_append, avoids_join (by decide)]
  exact ⟨⟨hfront, hfilled⟩, hend⟩

theorem avoids_ruleCells (widths : List Nat) : ∀ cell ∈ ruleCells widths, Avoids '\n' cell := by
  intro cell hcell
  obtain ⟨w, -, rfl⟩ := List.mem_map.1 hcell
  simp [List.mem_replicate]

/-! ## Tables -/

/-- What the lines of a table show: the headers, the rule below them, and the rows. -/
def shownRows (widths : List Nat) (headers : List String) (rows : List (List String)) :
    List (List String) :=
  headers :: ruleCells widths :: rows

theorem forall_mem_shownRows {p : List String → Prop} (hrule : p (ruleCells widths))
    (h : ∀ cells ∈ headers :: rows, p cells) : ∀ cells ∈ shownRows widths headers rows, p cells := by
  rw [List.forall_mem_cons] at h
  rw [shownRows, List.forall_mem_cons, List.forall_mem_cons]
  exact ⟨h.1, hrule, h.2⟩

theorem table_eq_error_iff :
    table headers rows = .error .rowTooLong ↔ ∃ row ∈ rows, headers.length < row.length := by
  rw [table, ← List.length_map String.length, ← widenAll_eq_none_iff]
  cases widenAll (headers.map String.length) rows <;> simp

theorem exists_table_eq (h : ∀ row ∈ rows, row.length ≤ headers.length) :
    ∃ widths, widenAll (headers.map String.length) rows = some widths ∧
      table headers rows = .ok (unlines ((shownRows widths headers rows).map (rowLine widths))) := by
  have hsome : widenAll (headers.map String.length) rows ≠ none := by
    rw [Ne, widenAll_eq_none_iff, List.length_map]
    rintro ⟨row, hrow, hlong⟩
    exact absurd (h row hrow) (Nat.not_le_of_lt hlong)
  obtain ⟨widths, hwidths⟩ := Option.ne_none_iff_exists'.1 hsome
  refine ⟨widths, hwidths, ?_⟩
  rw [table, hwidths]
  rfl

/-- The table of a report does not fail: every declaration has three cells for the three headers. -/
theorem exists_ofSchema_eq (names : TypeNames) (s : Schema) :
    ∃ report, ofSchema names s = .ok report := by
  have hrows : ∀ row ∈ s.declarations.map declarationRow,
      row.length ≤ ["Kind", "Name", "Fields / Type"].length := by
    intro row hrow
    obtain ⟨d, -, rfl⟩ := List.mem_map.1 hrow
    cases d <;> exact Nat.le_refl _
  obtain ⟨widths, -, htable⟩ := exists_table_eq hrows
  rw [ofSchema, htable]
  exact ⟨_, rfl⟩

/-- A column is as wide as its longest text: that of its header, or of a cell below. -/
theorem isGreatest_width (h : widenAll (headers.map String.length) rows = some ws) {j w : Nat}
    (hw : ws[j]? = some w) :
    IsGreatest {n | ∃ text ∈ column (headers :: rows) j, text.length = n} w := by
  rw [getElem?_widenAll_headers h, Option.map_eq_some_iff] at hw
  obtain ⟨header, hheader, rfl⟩ := hw
  have hmem : header ∈ column (headers :: rows) j :=
    List.mem_filterMap.2 ⟨headers, List.mem_cons_self, hheader⟩
  exact isGreatest_longest (List.ne_nil_of_mem hmem)

/-- **Tables are rectangular.** A table fails exactly if a row has more cells than there are headers.
Otherwise, without line feeds in its texts, it has a line for the headers, for the rule below them and
for each row in order. A column is as wide as its longest text and starts at one place on all lines,
where a cell is filled up to the width, between two bars. If all rows have a cell for each header, all
lines have one length. So the report of a schema never fails. -/
theorem table_rectangular (hheaders : headers ≠ []) (rows : List (List String)) :
    (table headers rows = .error .rowTooLong ↔ ∃ row ∈ rows, headers.length < row.length) ∧
    ((∀ row ∈ rows, row.length ≤ headers.length) →
      (∀ cells ∈ headers :: rows, ∀ cell ∈ cells, Avoids '\n' cell) →
      ∃ (text : String) (lines : List String) (widths : List Nat),
        table headers rows = .ok text ∧ split '\n' text = lines ++ [""] ∧
        lines.length = rows.length + 2 ∧ widths.length = headers.length ∧
        (∀ (j w : Nat), widths[j]? = some w →
          IsGreatest {n | ∃ text ∈ column (headers :: rows) j, text.length = n} w) ∧
        List.Forall₂
          (fun cells line => ∀ (j w : Nat) (cell : String),
            widths[j]? = some w → cells[j]? = some cell → StandsAt line (columnStart widths j) w cell)
          (headers :: ruleCells widths :: rows) lines ∧
        ((∀ row ∈ rows, row.length = headers.length) →
          ∀ line ∈ lines, line.length = 1 + (widths.map (· + 3)).sum)) ∧
    ∀ names s, ∃ report, ofSchema names s = .ok report := by
  refine ⟨table_eq_error_iff, fun hshort hfeeds => ?_, exists_ofSchema_eq⟩
  obtain ⟨widths, hwidths, htable⟩ := exists_table_eq hshort
  have hlength := length_widenAll_headers hwidths
  have hfits := forall_mem_shownRows (fits_ruleCells widths) fun cells => fits_of_mem hwidths
  refine ⟨_, (shownRows widths headers rows).map (rowLine widths), widths, htable, ?_, ?_, hlength,
    fun j w => isGreatest_width hwidths, ?_, fun hfull => ?_⟩
  · have havoids := forall_mem_shownRows (avoids_ruleCells widths) hfeeds
    rw [split_unlines_iff, List.forall_mem_map]
    exact fun cells hcells => avoids_rowLine (havoids cells hcells)
  · rw [List.length_map]
    rfl
  · rw [List.forall₂_map_right_iff]
    exact List.forall₂_same.2 fun cells hcells j w cell => standsAt_rowLine (hfits cells hcells)
  · have hne : widths ≠ [] := by
      rw [← List.length_pos_iff, hlength]
      exact List.length_pos_iff.2 hheaders
    have hcolumns : ∀ cells ∈ shownRows widths headers rows, cells.length = widths.length := by
      refine forall_mem_shownRows (List.length_map _) ?_
      rw [hlength, List.forall_mem_cons]
      exact ⟨rfl, hfull⟩
    rw [List.forall_mem_map]
    exact fun cells hcells => length_rowLine (hfits cells hcells) hne (hcolumns cells hcells)

/-- A header of five characters in seven bytes, and two empty cells. -/
theorem table_rectangular_umlaut :
    let headers := ["A", "Größe"]
    let rows := [["xyz", ""], ["", "1"]]
    headers ≠ [] ∧ (∀ row ∈ rows, row.length ≤ headers.length) ∧
    (∀ cells ∈ headers :: rows, ∀ cell ∈ cells, Avoids '\n' cell) ∧
    (∀ row ∈ rows, row.length = headers.length) ∧
    ∃ (text : String) (lines : List String) (n : Nat),
      table headers rows = .ok text ∧ split '\n' text = lines ++ [""] ∧ lines.length = 4 ∧
      ∀ line ∈ lines, line.length = n := by
  intro headers rows
  have hne : headers ≠ [] := List.cons_ne_nil _ _
  have hshort : ∀ row ∈ rows, row.length ≤ headers.length := by decide
  have hfeeds : ∀ cells ∈ headers :: rows, ∀ cell ∈ cells, Avoids '\n' cell := by decide
  have hfull : ∀ row ∈ rows, row.length = headers.length := by decide
  obtain ⟨text, lines, widths, htable, hsplit, hcount, -, -, -, hlines⟩ :=
    (table_rectangular hne rows).2.1 hshort hfeeds
  exact ⟨hne, hshort, hfeeds, hfull, text, lines, _, htable, hsplit, hcount, hlines hfull⟩

example : table ["A", "Long"] [["xyz", "1"]] =
    .ok "| A   | Long |\n| --- | ---- |\n| xyz | 1    |\n" := by
  decide

end SampleTypes.Report.Markdown
