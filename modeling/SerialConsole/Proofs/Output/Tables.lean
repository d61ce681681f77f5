import Mathlib.Data.List.Forall2
import SerialConsole.Output.Grid
import SerialConsole.Proofs.Text.Pieces
import SerialConsole.Proofs.Text.Trimming

/-!
# Reading a printed table

A drawing may break the text of a cell wherever it likes, if the rules of the table
can still be told from its other lines and every cell keeps to its column.  Then the
rows below the header can be told apart in the printed text, whatever is in their
cells, and there are as many as the table has, in order.  The drawing at full width is
of this kind.
-/

namespace SerialConsole.Output

open Log Text

/-! ### Drawings -/

def textLines (text : String) : List (List Char) :=
  text.toList.splitOn '\n'

/-- The line begins as the rule does. -/
def Rule.begins (rule : Rule) (line : List Char) : Bool :=
  line.head? == some rule.left

/-- The rows below the header of a printed table, each as its lines, told apart by
the rules between them. -/
def bodyRows (text : String) : List (List (List Char)) :=
  let below := ((textLines text).dropWhile fun line => !Rule.belowHeader.begins line).tail
  (below.takeWhile fun line => !Rule.bottom.begins line).splitOnP Rule.betweenRows.begins

/-- A line of a row, from what it has of each cell. -/
def rowLine (parts : List (List Char)) : List Char :=
  '│' :: ['┆'].intercalate parts ++ ['│']

/-- A text without its blanks. -/
def ink (chars : List Char) : List Char :=
  chars.filter fun c => !isBlank c

/-- The lines show the cells side by side.  The text of a cell goes on from line to
line, where blanks may have been added or left out. -/
def ShowsCells (cells : List String) (lines : List (List Char)) : Prop :=
  ∃ parts : List (List (List Char)), lines = parts.map rowLine ∧
    (∀ row ∈ parts, row.length = cells.length) ∧
    ∀ (column : Nat) (text : String), cells[column]? = some text →
      ink (parts.flatMap fun row => row[column]?.getD []) = ink text.toList

/-- The text is one table with a row for each item, in order. -/
structure OneTable {α : Type} (Shows : α → List (List Char) → Prop) (items : List α)
    (text : String) : Prop where
  opened : (textLines text).countP Rule.top.begins = 1
  closed : (textLines text).countP Rule.bottom.begins = 1
  rows : List.Forall₂ Shows items (bodyRows text)

/-- There are rows, and each has a cell for every column. -/
structure Table.IsFull (table : Table) : Prop where
  header : table.header ≠ []
  rows : table.rows ≠ []
  columns : ∀ row ∈ table.rows, row.length = table.header.length

/-- Nothing gets lost where a table is drawn. -/
def Drawing.IsFaithful (draw : Drawing) : Prop :=
  ∀ table : Table, table.IsFull → OneTable ShowsCells table.rows (draw table)

/-! ### Fields -/

/-- The cells have the number of the record, its category, its subsystem or a dash, and
its text without the line ends at its end. -/
def HoldsFields (entry : Entry) (cells : List String) : Prop :=
  ∃ text ends : String,
    cells = [toString entry.sequence, entry.category.name,
      entry.subsystem.elim "-" Subsystem.name, text] ∧
    entry.text = text ++ ends ∧ (∀ c ∈ ends.toList, c = '\r' ∨ c = '\n') ∧
    ∀ c ∈ text.toList.getLast?, c ≠ '\r' ∧ c ≠ '\n'

/-- The lines show the fields of the record. -/
def Displays (entry : Entry) (lines : List (List Char)) : Prop :=
  ∃ cells, HoldsFields entry cells ∧ ShowsCells cells lines

theorem holdsFields_tableRow (entry : Entry) : HoldsFields entry (tableRow entry) := by
  obtain ⟨ends, hends, htext⟩ :=
    exists_trimEndWhile_append (fun c => c == '\r' || c == '\n') entry.text.toList
  have hsubsystem : subsystemField entry.subsystem = entry.subsystem.elim "-" Subsystem.name := by
    cases entry.subsystem <;> rfl
  refine ⟨String.ofList (withoutLineEnds entry.text), String.ofList ends, ?_, ?_, ?_, ?_⟩
  · rw [tableRow, hsubsystem]
  · apply String.toList_injective
    rw [String.toList_append, String.toList_ofList, String.toList_ofList]
    exact htext
  · intro c hc
    rw [String.toList_ofList] at hc
    simpa using hends c hc
  · intro c hc
    rw [String.toList_ofList] at hc
    simpa using getLast?_trimEndWhile (fun c => c == '\r' || c == '\n') entry.text.toList c hc

theorem isFull_logTable {entries : List Entry} (hentries : entries ≠ []) :
    (logTable entries).IsFull where
  header := List.cons_ne_nil _ _
  rows := by rwa [logTable, ne_eq, List.map_eq_nil_iff]
  columns row hrow := by
    obtain ⟨entry, -, rfl⟩ := List.mem_map.mp hrow
    rfl

theorem rows_logTable (entries : List Entry) :
    List.Forall₂ HoldsFields entries (logTable entries).rows := by
  apply List.forall₂_map_right_iff.mpr
  apply List.forall₂_same.mpr
  intro entry hentry
  exact holdsFields_tableRow entry

/-- A faithful drawing shows the fields of all records. -/
theorem Drawing.IsFaithful.oneTable_logTable {draw : Drawing} (hdraw : draw.IsFaithful)
    {entries : List Entry} (hentries : entries ≠ []) :
    OneTable Displays entries (draw (logTable entries)) := by
  have htable := hdraw (logTable entries) (isFull_logTable hentries)
  refine ⟨htable.opened, htable.closed, ?_⟩
  have hcells := List.forall₂_map_left_iff.mp htable.rows
  exact hcells.imp fun entry lines hlines => ⟨_, holdsFields_tableRow entry, hlines⟩

/-! ### Blanks -/

theorem ink_append (front back : List Char) : ink (front ++ back) = ink front ++ ink back :=
  List.filter_append ..

theorem ink_flatten_splitOn (chars : List Char) : ink (chars.splitOn '\n').flatten = ink chars := by
  induction chars with
  | nil => rfl
  | cons c chars ih =>
      obtain ⟨first, others, hpieces⟩ :=
        List.exists_cons_of_ne_nil (List.splitOn_ne_nil '\n' chars)
      rw [List.splitOn_cons_eq_if_modifyHead]
      rw [hpieces] at ih ⊢
      split
      · rename_i hfeed
        rw [List.flatten_cons, List.nil_append, ih, beq_iff_eq.mp hfeed]
        rfl
      · rw [List.modifyHead_cons, List.flatten_cons, List.cons_append]
        rw [List.flatten_cons] at ih
        rw [ink, List.filter_cons, ← ink, ih, ink, ink, List.filter_cons]

/-- Past the end of a list there is nothing more to come. -/
theorem flatMap_range_getElem? {f : List Char → List Char} (hf : f [] = [])
    {pieces : List (List Char)} {count : Nat} (hcount : pieces.length ≤ count) :
    ((List.range count).flatMap fun index => f (pieces[index]?.getD [])) = pieces.flatMap f := by
  induction pieces generalizing count with
  | nil =>
      apply List.flatMap_eq_nil_iff.mpr
      intro index hindex
      exact hf
  | cons first pieces ih =>
      cases count with
      | zero => exact absurd hcount (Nat.not_succ_le_zero _)
      | succ count =>
          rw [List.range_succ_eq_map, List.flatMap_cons, List.flatMap_map, List.flatMap_cons]
          exact congrArg (f first ++ ·) (ih (Nat.le_of_succ_le_succ hcount))

/-! ### Drawing at full width -/

namespace Grid

/-- No line of a cell goes on over a line feed, and every row has a cell for each
column. -/
structure Regular (grid : Grid) : Prop where
  header : ∀ cell ∈ grid.header, ∀ line ∈ cell, '\n' ∉ line
  rows : ∀ row ∈ grid.rows, ∀ cell ∈ row, ∀ line ∈ cell, '\n' ∉ line
  columns : ∀ row ∈ grid.rows, row.length = grid.header.length

/-! ### The lines of a table -/

section Lines

variable {widths : List Nat} {row : List Cell} {cell : Cell} {line : List Char} {rule : Rule}

theorem head?_draw (rule : Rule) (widths : List Nat) :
    (rule.draw widths).head? = some rule.left := rfl

theorem begins_draw (rule other : Rule) (widths : List Nat) :
    rule.begins (other.draw widths) = (some other.left == some rule.left) := by
  rw [Rule.begins, head?_draw]

theorem head?_of_mem_drawRow (hline : line ∈ drawRow widths row) : line.head? = some '│' := by
  obtain ⟨index, -, rfl⟩ := List.mem_map.mp hline
  rfl

/-- A line between two ends and with crossings has no line feed but in its segments. -/
theorem lf_notMem_framed {left cross right : Char} {segments : List (List Char)}
    (hmarks : '\n' ∉ [left, cross, right]) (hsegments : ∀ segment ∈ segments, '\n' ∉ segment) :
    '\n' ∉ left :: [cross].intercalate segments ++ [right] := by
  simp only [List.mem_cons, List.not_mem_nil, or_false, not_or] at hmarks
  obtain ⟨hleft, hcross, hright⟩ := hmarks
  intro hmem
  rw [List.mem_append, List.mem_cons, List.mem_singleton] at hmem
  rcases hmem with (heq | hinner) | heq
  · exact hleft heq
  · rcases mem_intercalate hinner with hseparator | ⟨segment, hsegment, hc⟩
    · exact hcross (List.mem_singleton.mp hseparator)
    · exact hsegments segment hsegment hc
  · exact hright heq

theorem lf_notMem_draw (hmarks : '\n' ∉ [rule.left, rule.cross, rule.right])
    (hline : '\n' ≠ rule.line) : '\n' ∉ rule.draw widths := by
  refine lf_notMem_framed hmarks fun segment hsegment hmem => ?_
  obtain ⟨width, -, rfl⟩ := List.mem_map.mp hsegment
  exact hline (List.eq_of_mem_replicate hmem)

theorem lf_notMem_padded {width : Nat} (hline : '\n' ∉ line) : '\n' ∉ padded width line := by
  intro hmem
  rw [padded, List.mem_append, List.mem_append, List.mem_cons] at hmem
  rcases hmem with ((heq | htext) | hfill) | hspace
  · exact absurd heq (by decide)
  · exact hline htext
  · exact absurd (List.eq_of_mem_replicate hfill) (by decide)
  · exact absurd (List.mem_singleton.mp hspace) (by decide)

theorem lf_notMem_of_mem_drawRow (hrow : ∀ cell ∈ row, ∀ line ∈ cell, '\n' ∉ line)
    (hline : line ∈ drawRow widths row) : '\n' ∉ line := by
  obtain ⟨index, -, rfl⟩ := List.mem_map.mp hline
  refine lf_notMem_framed (by decide) fun segment hsegment => ?_
  rw [segments, ← List.map_uncurry_zip_eq_zipWith, List.mem_map] at hsegment
  obtain ⟨⟨width, cell⟩, hpair, rfl⟩ := hsegment
  refine lf_notMem_padded ?_
  cases hat : cell[index]? with
  | none => exact List.not_mem_nil
  | some line => exact hrow cell (List.of_mem_zip hpair).2 line (List.mem_of_getElem? hat)

end Lines

/-! ### The rows of a table -/

section Rows

variable {grid : Grid}

/-- The lines between the rule below the header and the rule at the bottom. -/
def body (grid : Grid) : List (List Char) :=
  [Rule.betweenRows.draw grid.widths].intercalate (grid.rows.map (drawRow grid.widths))

theorem lines_eq (grid : Grid) :
    grid.lines = (Rule.top.draw grid.widths :: drawRow grid.widths grid.header) ++
      Rule.belowHeader.draw grid.widths :: (grid.body ++ [Rule.bottom.draw grid.widths]) := by
  simp only [lines, body, List.cons_append, List.append_assoc, List.nil_append]

theorem mem_body {line : List Char} (hline : line ∈ grid.body) :
    line = Rule.betweenRows.draw grid.widths ∨
      ∃ row ∈ grid.rows, line ∈ drawRow grid.widths row := by
  rcases mem_intercalate hline with hrule | ⟨block, hblock, hmem⟩
  · exact .inl (List.mem_singleton.mp hrule)
  · obtain ⟨row, hrow, rfl⟩ := List.mem_map.mp hblock
    exact .inr ⟨row, hrow, hmem⟩

theorem begins_of_mem_drawRow {rule : Rule} (hrule : rule.left ≠ '│') {widths : List Nat}
    {row : List Cell} {line : List Char} (hline : line ∈ drawRow widths row) :
    rule.begins line = false := by
  rw [Rule.begins, head?_of_mem_drawRow hline, beq_eq_false_iff_ne]
  exact fun heq => hrule (Option.some.inj heq).symm

theorem begins_of_mem_body {rule : Rule} (hrow : rule.left ≠ '│')
    (hrule : rule.left ≠ Rule.betweenRows.left) {line : List Char} (hline : line ∈ grid.body) :
    rule.begins line = false := by
  rcases mem_body hline with rfl | ⟨row, -, hmem⟩
  · rw [begins_draw, beq_eq_false_iff_ne]
    exact fun heq => hrule (Option.some.inj heq).symm
  · exact begins_of_mem_drawRow hrow hmem

theorem lf_notMem_of_mem_lines (hregular : grid.Regular) {line : List Char}
    (hline : line ∈ grid.lines) : '\n' ∉ line := by
  rw [lines_eq, List.mem_append, List.mem_cons, List.mem_cons, List.mem_append,
    List.mem_singleton] at hline
  rcases hline with (rfl | hheader) | rfl | hbody | rfl
  · exact lf_notMem_draw (by decide) (by decide)
  · exact lf_notMem_of_mem_drawRow hregular.header hheader
  · exact lf_notMem_draw (by decide) (by decide)
  · rcases mem_body hbody with rfl | ⟨row, hrow, hmem⟩
    · exact lf_notMem_draw (by decide) (by decide)
    · exact lf_notMem_of_mem_drawRow (hregular.rows row hrow) hmem
  · exact lf_notMem_draw (by decide) (by decide)

theorem textLines_render (hregular : grid.Regular) : textLines grid.render = grid.lines := by
  have hnonempty : grid.lines ≠ [] := by
    rw [lines_eq]
    exact List.cons_ne_nil _ _
  rw [textLines, render, String.toList_ofList]
  exact List.splitOn_intercalate '\n' (fun line hline => lf_notMem_of_mem_lines hregular hline)
    hnonempty

/-- The rows can be told apart in the printed text. -/
theorem bodyRows_render (hregular : grid.Regular) (hrows : grid.rows ≠ []) :
    bodyRows grid.render = grid.rows.map (drawRow grid.widths) := by
  have habove : ∀ line ∈ Rule.top.draw grid.widths :: drawRow grid.widths grid.header,
      (!Rule.belowHeader.begins line) = true := by
    intro line hline
    rcases List.mem_cons.mp hline with rfl | hheader
    · rfl
    · rw [begins_of_mem_drawRow (by decide) hheader]
      rfl
  have hbody : ∀ line ∈ grid.body, (!Rule.bottom.begins line) = true := by
    intro line hline
    rw [begins_of_mem_body (by decide) (by decide) hline]
    rfl
  have hbelow : ∀ line ∈ (Rule.belowHeader.draw grid.widths ::
      (grid.body ++ [Rule.bottom.draw grid.widths])).head?,
      (!Rule.belowHeader.begins line) = false := by
    rintro line ⟨⟩
    rfl
  have hbottom : ∀ line ∈ [Rule.bottom.draw grid.widths].head?,
      (!Rule.bottom.begins line) = false := by
    rintro line ⟨⟩
    rfl
  have hblocks : ∀ block ∈ grid.rows.map (drawRow grid.widths), ∀ line ∈ block,
      Rule.betweenRows.begins line = false := by
    intro block hblock line hline
    obtain ⟨row, -, rfl⟩ := List.mem_map.mp hblock
    exact begins_of_mem_drawRow (by decide) hline
  simp only [bodyRows, textLines_render hregular, lines_eq,
    dropWhile_append_of_head habove hbelow, List.tail_cons,
    takeWhile_append_of_head hbody hbottom]
  refine splitOnP_intercalate rfl hblocks ?_
  rwa [ne_eq, List.map_eq_nil_iff]

/-- Of all lines of a table, only the first and the last begin as the rules at its top
and at its bottom do. -/
theorem countP_begins_render (hregular : grid.Regular) {rule : Rule} (hrow : rule.left ≠ '│')
    (hbetween : rule.left ≠ Rule.betweenRows.left)
    (hbelow : rule.left ≠ Rule.belowHeader.left) :
    (textLines grid.render).countP rule.begins =
      [Rule.top.draw grid.widths, Rule.bottom.draw grid.widths].countP rule.begins := by
  have hheader : (drawRow grid.widths grid.header).countP rule.begins = 0 := by
    refine List.countP_eq_zero.mpr fun line hline => ?_
    rw [begins_of_mem_drawRow hrow hline]
    exact Bool.false_ne_true
  have hbody : grid.body.countP rule.begins = 0 := by
    refine List.countP_eq_zero.mpr fun line hline => ?_
    rw [begins_of_mem_body hrow hbetween hline]
    exact Bool.false_ne_true
  have hdouble : rule.begins (Rule.belowHeader.draw grid.widths) = false := by
    rw [begins_draw, beq_eq_false_iff_ne]
    exact fun heq => hbelow (Option.some.inj heq).symm
  rw [textLines_render hregular, lines_eq]
  simp only [List.countP_append, List.countP_cons, List.countP_nil, hheader, hbody, hdouble,
    Bool.false_eq_true, if_false]
  omega

/-- The rules at the top and at the bottom are drawn once. -/
theorem countP_begins_eq_one (hregular : grid.Regular) {rule : Rule}
    (hrule : rule = .top ∨ rule = .bottom) :
    (textLines grid.render).countP rule.begins = 1 := by
  rcases hrule with rfl | rfl
  all_goals
    rw [countP_begins_render hregular (by decide) (by decide) (by decide), List.countP_cons,
      List.countP_singleton, begins_draw, begins_draw]
    rfl

end Rows

/-! ### The cells of a row -/

theorem length_zipWith_foldl {rows : List (List Cell)} {widths : List Nat}
    (hcolumns : ∀ row ∈ rows, row.length = widths.length) :
    (rows.foldl (fun widths row => List.zipWith (fun width cell => max width cell.width)
      widths row) widths).length = widths.length := by
  induction rows generalizing widths with
  | nil => rfl
  | cons row rows ih =>
      obtain ⟨hrow, hrows⟩ := List.forall_mem_cons.mp hcolumns
      have hsame : (List.zipWith (fun width (cell : Cell) => max width cell.width)
          widths row).length = widths.length := by
        rw [List.length_zipWith, hrow, Nat.min_self]
      rw [List.foldl_cons, ih (by rwa [hsame]), hsame]

theorem length_widths {grid : Grid} (hregular : grid.Regular) :
    grid.widths.length = grid.header.length := by
  rw [widths, length_zipWith_foldl, List.length_map]
  simpa only [List.length_map] using hregular.columns

theorem ink_padded (width : Nat) (line : List Char) : ink (padded width line) = ink line := by
  have hfill : ink (List.replicate (width - Text.width line) ' ') = [] := by
    apply List.filter_eq_nil_iff.mpr
    intro c hc
    rw [List.eq_of_mem_replicate hc]
    decide
  have hsides : ink [' '] = [] := by decide
  rw [padded, ← List.singleton_append, ink_append, ink_append, ink_append, hfill, hsides,
    List.nil_append, List.append_nil, List.append_nil]

/-- What a column shows of a cell is all of it. -/
theorem ink_column {cell : Cell} {height : Nat} (hheight : cell.length ≤ height) (width : Nat) :
    ink ((List.range height).flatMap fun index => padded width (cell[index]?.getD [])) =
      ink cell.flatten := by
  calc
    ink ((List.range height).flatMap fun index => padded width (cell[index]?.getD []))
        = (List.range height).flatMap fun index => ink (cell[index]?.getD []) := by
          rw [ink, List.filter_flatMap]
          exact congrArg (List.flatMap · _) (funext fun index => ink_padded width _)
    _ = cell.flatMap ink := flatMap_range_getElem? rfl hheight
    _ = ink cell.flatten := by rw [ink, List.filter_flatten, List.flatMap_def]; rfl

theorem length_le_height {row : List Cell} {cell : Cell} (hcell : cell ∈ row) :
    cell.length ≤ height row := by
  rw [height, List.foldl_max, Nat.zero_max]
  exact List.le_max?_getD_of_mem (List.mem_map_of_mem hcell)

theorem getElem?_segments {widths : List Nat} {row : List Cell} {column width : Nat} {cell : Cell}
    (hwidth : widths[column]? = some width) (hcell : row[column]? = some cell) (index : Nat) :
    (segments widths row index)[column]? = some (padded width (cell[index]?.getD [])) := by
  rw [segments, List.getElem?_zipWith, hwidth, hcell]

theorem showsCells_drawRow {widths : List Nat} {cells : List String}
    (hcolumns : widths.length = cells.length) :
    ShowsCells cells (drawRow widths (cells.map Cell.ofText)) := by
  refine ⟨(List.range (height (cells.map Cell.ofText))).map
    (segments widths (cells.map Cell.ofText)), ?_, ?_, ?_⟩
  · rw [List.map_map]
    rfl
  · intro line hline
    obtain ⟨index, -, rfl⟩ := List.mem_map.mp hline
    rw [segments, List.length_zipWith, List.length_map, hcolumns, Nat.min_self]
  · intro column text htext
    obtain ⟨hcolumn, -⟩ := List.getElem?_eq_some_iff.mp htext
    have hwidth : widths[column]? = some widths[column] :=
      List.getElem?_eq_getElem (hcolumns ▸ hcolumn)
    have hcell : (cells.map Cell.ofText)[column]? = some (Cell.ofText text) := by
      rw [List.getElem?_map, htext, Option.map_some]
    have hheight := length_le_height (List.mem_of_getElem? hcell)
    rw [List.flatMap_map]
    simp only [getElem?_segments hwidth hcell, Option.getD_some]
    exact (ink_column hheight widths[column]).trans (ink_flatten_splitOn text.toList)

/-! ### Tables at their full width -/

theorem lf_notMem_of_mem_ofText {text : String} {line : List Char}
    (hline : line ∈ Cell.ofText text) : '\n' ∉ line :=
  notMem_of_mem_splitOn hline

theorem regular_ofTable {table : Table}
    (hcolumns : ∀ row ∈ table.rows, row.length = table.header.length) :
    (ofTable table).Regular where
  header cell hcell line hline := by
    obtain ⟨text, -, rfl⟩ := List.mem_map.mp hcell
    exact lf_notMem_of_mem_ofText hline
  rows row hrow cell hcell line hline := by
    obtain ⟨cells, -, rfl⟩ := List.mem_map.mp hrow
    obtain ⟨text, -, rfl⟩ := List.mem_map.mp hcell
    exact lf_notMem_of_mem_ofText hline
  columns row hrow := by
    obtain ⟨cells, hcells, rfl⟩ := List.mem_map.mp hrow
    rw [List.length_map, hcolumns cells hcells]
    exact (List.length_map _).symm

end Grid

theorem Drawing.isFaithful_fullWidth : Drawing.fullWidth.IsFaithful := by
  intro table hfull
  have hregular := Grid.regular_ofTable hfull.columns
  have hnonempty : (Grid.ofTable table).rows ≠ [] := by
    rw [Grid.ofTable, ne_eq, List.map_eq_nil_iff]
    exact hfull.rows
  refine ⟨Grid.countP_begins_eq_one hregular (.inl rfl),
    Grid.countP_begins_eq_one hregular (.inr rfl), ?_⟩
  rw [fullWidth, Grid.bodyRows_render hregular hnonempty]
  apply List.forall₂_map_right_iff.mpr
  apply List.forall₂_map_right_iff.mpr
  apply List.forall₂_same.mpr
  intro row hrow
  apply Grid.showsCells_drawRow
  rw [Grid.length_widths hregular, hfull.columns row hrow]
  exact List.length_map _

end SerialConsole.Output
