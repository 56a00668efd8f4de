import AskLedger.Proofs.OuterBlanks
import AskLedger.Proofs.TextLines
import AskLedger.Report.Table

/-!
# Tables read back

The lines of a table that start with a bar and a blank hold its rows, and all others are rules. A
row is drawn with as many lines as its tallest cell, and a rule stands between two rows, so whatever
the cells hold, the lines between rules are the rows that were drawn. Where every cell is a single
line without bars and outer blanks, the cells themselves are read back.

* `Table.lines_drawn`: the lines a table is drawn with.
* `Table.blocks_drawn`: one block of lines for every row.
* `Table.read_drawn`: a table of plain cells is read back.
-/

namespace AskLedger

open Text (IsLine)

namespace Table

variable {widths : List Nat} {row : List String} {rows : List (List String)} {t : Table}

/-! ## Lines with cells -/

/-- Whether a line of a table has cells. -/
def hasCells (line : String) : Bool := ['|', ' '].isPrefixOf line.toList

/-- A line that starts otherwise than with a bar has no cells. -/
theorem hasCells_append {s : String} (hne : s.toList ≠ []) (hbar : '|' ∉ s.toList) (t : String) :
    hasCells (s ++ t) = false := by
  obtain ⟨c, rest, hs⟩ := List.exists_cons_of_ne_nil hne
  have hc : '|' ≠ c := fun h => hbar (hs ▸ h ▸ List.mem_cons_self)
  simp [hasCells, hs, List.isPrefixOf, hc]

/-- A rule has no cells. -/
theorem hasCells_rule {side fill middle : Char} (hside : side ≠ ' ') (hfill : fill ≠ ' ') :
    hasCells (rule side fill middle widths) = false := by
  cases widths with
  | nil => simp [hasCells, rule, Text.joinWith, List.isPrefixOf, Ne.symm hside]
  | cons w rest =>
    obtain ⟨others, hjoined⟩ := Text.exists_joinWith_cons middle.toString
      (String.ofList (List.replicate (w + 2) fill))
      (rest.map fun w => String.ofList (List.replicate (w + 2) fill))
    rw [hasCells, rule, List.map_cons, hjoined]
    simp [List.isPrefixOf, List.replicate_succ, Ne.symm hfill]

/-- Every line of a row has cells. -/
theorem hasCells_of_mem_drawnRow {line : String} (h : line ∈ drawnRow widths row) :
    hasCells line = true := by
  obtain ⟨i, -, rfl⟩ := List.mem_map.1 h
  simp [hasCells, drawnLine]

/-! ## The lines of a table -/

/-- A rule is a single line. -/
theorem isLine_rule {side fill middle : Char} (hside : side ≠ '\n') (hfill : fill ≠ '\n')
    (hmiddle : middle ≠ '\n') : IsLine (rule side fill middle widths) := by
  have hchar : ∀ c : Char, c ≠ '\n' → IsLine c.toString := by
    intro c hc
    simp [IsLine, Char.toString, Ne.symm hc]
  simp only [rule, Text.isLine_append, hchar side hside, true_and, and_true]
  refine Text.isLine_joinWith (hchar middle hmiddle) fun t ht => ?_
  obtain ⟨w, -, rfl⟩ := List.mem_map.1 ht
  simp [IsLine, Ne.symm hfill]

/-- Filling a line up adds only blanks. -/
theorem mem_filled {c : Char} {w : Nat} {line : List Char} (h : c ∈ (filled w line).toList) :
    c ∈ line ∨ c = ' ' := by
  rw [filled, String.toList_ofList] at h
  exact (List.mem_append.1 h).imp_right List.eq_of_mem_replicate

/-- Every text of a line of a row fills up a line of a cell. -/
theorem exists_of_mem_zipWith_filled {α : Type} {text : String} {lineOf : α → List Char}
    {cells : List α} (h : text ∈ List.zipWith (fun w cell => filled w (lineOf cell)) widths cells) :
    ∃ w, ∃ cell ∈ cells, text = filled w (lineOf cell) := by
  induction widths generalizing cells with
  | nil => cases h
  | cons w widths ih =>
    cases cells with
    | nil => cases h
    | cons cell cells =>
      rcases List.mem_cons.1 h with rfl | hrest
      · exact ⟨w, cell, List.mem_cons_self, rfl⟩
      · obtain ⟨w', cell', hmem, htext⟩ := ih hrest
        exact ⟨w', cell', List.mem_cons_of_mem _ hmem, htext⟩

/-- A line of a cell has no line feeds, also where the cell has no more lines. -/
theorem not_mem_getD_cellLines (cell : String) (i : Nat) : '\n' ∉ (cellLines cell).getD i [] := by
  rw [List.getD_eq_getElem?_getD]
  cases hline : (cellLines cell)[i]? with
  | none => exact List.not_mem_nil
  | some line => exact Text.not_mem_of_mem_splitAt (List.mem_of_getElem? hline)

/-- A row is drawn line by line, whatever its cells hold. -/
theorem isLine_of_mem_drawnRow {line : String} (h : line ∈ drawnRow widths row) : IsLine line := by
  have hbar : IsLine "| " ∧ IsLine " | " ∧ IsLine " |" := by decide
  obtain ⟨i, -, rfl⟩ := List.mem_map.1 h
  simp only [drawnLine, Text.isLine_append, hbar.1, hbar.2.2, true_and, and_true]
  refine Text.isLine_joinWith hbar.2.1 fun text htext hfeed => ?_
  obtain ⟨w, lines, hlines, rfl⟩ := exists_of_mem_zipWith_filled htext
  obtain ⟨cell, -, rfl⟩ := List.mem_map.1 hlines
  rcases mem_filled hfeed with hmem | hblank
  · exact not_mem_getD_cellLines cell i hmem
  · exact absurd hblank (by decide)

theorem isLine_of_mem_drawnRows {line : String} (h : line ∈ drawnRows widths rows) :
    IsLine line := by
  fun_induction drawnRows widths rows with
  | case1 => cases h
  | case2 row => exact isLine_of_mem_drawnRow h
  | case3 row rows hne ih =>
    rcases List.mem_append.1 h with hrow | hrest
    · exact isLine_of_mem_drawnRow hrow
    · rcases List.mem_cons.1 hrest with rfl | hmore
      · exact isLine_rule (by decide) (by decide) (by decide)
      · exact ih hmore

/-- The lines of a table: rules above and below, the header, a rule, and the rows. -/
theorem lines_drawn (t : Table) :
    Text.lines t.drawn = rule '+' '-' '+' t.widths :: drawnRow t.widths t.header
      ++ rule '+' '=' '=' t.widths :: drawnRows t.widths t.rows
      ++ [rule '+' '-' '+' t.widths] := by
  have hrule : ∀ fill middle, fill ≠ '\n' → middle ≠ '\n' →
      IsLine (rule '+' fill middle t.widths) :=
    fun _ _ => isLine_rule (by decide)
  rw [drawn, Text.lines_joinWith_eq_self (by simp)]
  simp only [List.forall_mem_append, List.forall_mem_cons]
  exact ⟨⟨⟨hrule _ _ (by decide) (by decide), fun _ => isLine_of_mem_drawnRow⟩,
    hrule _ _ (by decide) (by decide), fun _ => isLine_of_mem_drawnRows⟩,
    hrule _ _ (by decide) (by decide), by simp⟩

/-! ## Rows between rules -/

/-- The rows of a table as they are drawn, from its lines: what stands between lines without
cells. -/
def blocks (lines : List String) : List (List String) :=
  (lines.splitOnP (!hasCells ·)).filter (!·.isEmpty)

/-- A line without cells stands between two rows. -/
theorem blocks_append_cons {line : String} (h : hasCells line = false) (a b : List String) :
    blocks (a ++ line :: b) = blocks a ++ blocks b := by
  rw [blocks, List.splitOnP_append_cons a b (by simp [h]), List.filter_append, blocks, blocks]

/-- A line without cells above all rows is passed over. -/
theorem blocks_cons {line : String} (h : hasCells line = false) (rest : List String) :
    blocks (line :: rest) = blocks rest :=
  blocks_append_cons h [] rest

/-- A line without cells below all rows is passed over. -/
theorem blocks_concat {line : String} (h : hasCells line = false) (lines : List String) :
    blocks (lines ++ [line]) = blocks lines :=
  (blocks_append_cons h lines []).trans (List.append_nil _)

/-- A row has a line, since every cell has one. -/
theorem drawnRow_ne_nil (hne : row ≠ []) : drawnRow widths row ≠ [] := by
  have hgrows : ∀ (cells : List (List (List Char))) (height : Nat),
      height ≤ cells.foldl (fun h cell => max h cell.length) height := by
    intro cells
    induction cells with
    | nil => exact fun _ => Nat.le_refl _
    | cons cell cells ih => exact fun height => (Nat.le_max_left _ _).trans (ih _)
  obtain ⟨cell, rest, rfl⟩ := List.exists_cons_of_ne_nil hne
  obtain ⟨line, more, hcell⟩ := Text.exists_splitAt_eq_cons '\n' cell.toList
  have hheight := hgrows (rest.map cellLines) (max 0 (cellLines cell).length)
  have hone : 0 < (cellLines cell).length := by
    rw [cellLines, hcell]
    exact Nat.succ_pos _
  rw [Ne, drawnRow, List.map_eq_nil_iff, List.range_eq_nil, List.map_cons, List.foldl_cons]
  omega

/-- The lines of one row are one block. -/
theorem blocks_drawnRow (hne : row ≠ []) : blocks (drawnRow widths row) = [drawnRow widths row] := by
  have hcells : ∀ line ∈ drawnRow widths row, (!hasCells line) = false := by
    intro line hline
    rw [hasCells_of_mem_drawnRow hline, Bool.not_true]
  rw [blocks, List.splitOnP_eq_singleton hcells]
  simp [drawnRow_ne_nil hne]

/-- The lines of rows fall into one block for each row. -/
theorem blocks_drawnRows (h : ∀ row ∈ rows, row ≠ []) :
    blocks (drawnRows widths rows) = rows.map (drawnRow widths) := by
  fun_induction drawnRows widths rows with
  | case1 => rfl
  | case2 row => exact blocks_drawnRow (h row List.mem_cons_self)
  | case3 row rows hne ih =>
    obtain ⟨hrow, hrest⟩ := List.forall_mem_cons.1 h
    rw [blocks_append_cons (hasCells_rule (by decide) (by decide)), blocks_drawnRow hrow, ih hrest]
    rfl

/-- The lines of a table fall into one block for the header and one for each row, whatever the cells
hold. -/
theorem blocks_drawn (h : ∀ row ∈ t.header :: t.rows, row ≠ []) :
    blocks (Text.lines t.drawn) = (t.header :: t.rows).map (drawnRow t.widths) := by
  obtain ⟨hheader, hrows⟩ := List.forall_mem_cons.1 h
  have hrule : ∀ fill middle, fill ≠ ' ' → hasCells (rule '+' fill middle t.widths) = false :=
    fun _ _ => hasCells_rule (by decide)
  rw [lines_drawn, blocks_concat (hrule _ _ (by decide)), List.cons_append,
    blocks_cons (hrule _ _ (by decide)), blocks_append_cons (hrule _ _ (by decide)),
    blocks_drawnRow hheader, blocks_drawnRows hrows]
  rfl

/-! ## Cells -/

/-- The cells of a line of a table: what stands between bars, without the blanks around it. -/
def cellsOf (line : String) : List String :=
  ((Text.splitAt '|' line.toList).map fun cell => String.ofList (Text.trim cell)).tail.dropLast

/-- The rows of a table, from its lines. -/
def read (lines : List String) : List (List String) := (lines.filter hasCells).map cellsOf

theorem read_append (a b : List String) : read (a ++ b) = read a ++ read b := by
  rw [read, List.filter_append, List.map_append, read, read]

theorem read_of_hasCells {line : String} (h : hasCells line = true) :
    read [line] = [cellsOf line] := by
  rw [read, List.filter_cons_of_pos h]
  rfl

/-- A line without cells is passed over. -/
theorem read_cons_of_not_hasCells {line : String} (h : hasCells line = false) (rest : List String) :
    read (line :: rest) = read rest := by
  rw [read, List.filter_cons_of_neg (by simp [h]), read]

/-- A cell that can be read back: it is one line without bars, and has no outer blanks. -/
structure IsPlainCell (cell : String) : Prop where
  /-- It is one line. -/
  isLine : IsLine cell
  /-- It has no bar. -/
  no_bar : '|' ∉ cell.toList
  /-- It has no outer blanks. -/
  trimmed : Text.trim cell.toList = cell.toList

theorem isPlainCell_iff {cell : String} : IsPlainCell cell ↔
    IsLine cell ∧ '|' ∉ cell.toList ∧ Text.trim cell.toList = cell.toList :=
  ⟨fun h => ⟨h.isLine, h.no_bar, h.trimmed⟩, fun h => ⟨h.1, h.2.1, h.2.2⟩⟩

instance (cell : String) : Decidable (IsPlainCell cell) := decidable_of_iff _ isPlainCell_iff.symm

/-- Filled up and with a blank on either side, a cell is read back as it was. -/
theorem IsPlainCell.trim_filled {cell : String} (h : IsPlainCell cell) (w : Nat) :
    String.ofList (Text.trim (' ' :: (filled w cell.toList).toList ++ [' '])) = cell := by
  have hblank : ∀ n, ∀ c ∈ List.replicate n ' ', Text.isBlank c = true := by
    intro n c hc
    rw [List.eq_of_mem_replicate hc]
    rfl
  have hblanks : ' ' :: (filled w cell.toList).toList ++ [' '] = List.replicate 1 ' ' ++
      cell.toList ++ List.replicate (w - Text.columns cell.toList + 1) ' ' := by
    simp [filled, List.replicate_succ']
  rw [hblanks, Text.trim_blanks (hblank _) (hblank _), h.trimmed, String.ofList_toList]

/-- The cells of a row, each filled up to the width of its column. -/
def filledCells (widths : List Nat) (row : List String) : List String :=
  List.zipWith (fun w cell => filled w cell.toList) widths row

/-- The line of a row whose cells are single lines. -/
def rowLine (widths : List Nat) (row : List String) : String :=
  "| " ++ Text.joinWith " | " (filledCells widths row) ++ " |"

/-- What undoes the filling of each cell undoes that of the row. -/
theorem map_filledCells {f : String → String} (hlength : row.length ≤ widths.length)
    (h : ∀ w, ∀ cell ∈ row, f (filled w cell.toList) = cell) :
    (filledCells widths row).map f = row := by
  induction row generalizing widths with
  | nil => rw [filledCells, List.zipWith_nil_right, List.map_nil]
  | cons cell row ih =>
    cases widths with
    | nil => cases hlength
    | cons w widths =>
      have hrest := ih (Nat.le_of_succ_le_succ hlength)
        fun w' cell' hmem => h w' cell' (List.mem_cons_of_mem _ hmem)
      rw [filledCells, List.zipWith_cons_cons, List.map_cons, h w cell List.mem_cons_self,
        ← filledCells, hrest]

/-- A row of single lines is one line high. -/
theorem foldl_max_one (hne : row ≠ []) : row.foldl (fun height _ => max height 1) 0 = 1 := by
  have hstays : ∀ cells : List String, cells.foldl (fun height _ => max height 1) 1 = 1 := by
    intro cells
    induction cells with
    | nil => rfl
    | cons _ cells ih => exact ih
  obtain ⟨cell, rest, rfl⟩ := List.exists_cons_of_ne_nil hne
  exact hstays rest

/-- A row of single lines is drawn as one line. -/
theorem drawnRow_of_isLine (hne : row ≠ []) (h : ∀ cell ∈ row, IsLine cell) :
    drawnRow widths row = [rowLine widths row] := by
  have hcells : row.map cellLines = row.map fun cell => [cell.toList] :=
    List.map_congr_left fun cell hcell => Text.splitAt_of_not_mem (h cell hcell)
  simp only [drawnRow, hcells, List.foldl_map, List.length_singleton, foldl_max_one hne,
    List.range_one, List.map_singleton, drawnLine, List.zipWith_map_right]
  rfl

/-- Between bars, and with a blank on either side, texts without bars are the pieces of a line. -/
theorem splitAt_bars {cells : List String} (hne : cells ≠ [])
    (h : ∀ cell ∈ cells, '|' ∉ cell.toList) :
    Text.splitAt '|' (' ' :: (Text.joinWith " | " cells).toList ++ [' ', '|']) =
      (cells.map fun cell => ' ' :: cell.toList ++ [' ']) ++ [[]] := by
  induction cells with
  | nil => exact absurd rfl hne
  | cons cell rest ih =>
    obtain ⟨hcell, hrest⟩ := List.forall_mem_cons.1 h
    have hpiece : Text.splitAt '|' (' ' :: cell.toList ++ [' ']) = [' ' :: cell.toList ++ [' ']] :=
      Text.splitAt_of_not_mem (by simpa using hcell)
    by_cases hnil : rest = []
    · -- behind the last cell only the closing bar is left
      have hlast : ' ' :: (Text.joinWith " | " (cell :: rest)).toList ++ [' ', '|'] =
          (' ' :: cell.toList ++ [' ']) ++ '|' :: [] := by
        simp [hnil, Text.joinWith]
      rw [hlast, Text.splitAt_append_mark, hpiece, hnil]
      rfl
    · have hnext : ' ' :: (Text.joinWith " | " (cell :: rest)).toList ++ [' ', '|'] =
          (' ' :: cell.toList ++ [' ']) ++
            '|' :: (' ' :: (Text.joinWith " | " rest).toList ++ [' ', '|']) := by
        simp [Text.joinWith_cons hnil]
      rw [hnext, Text.splitAt_append_mark, hpiece, ih hnil hrest]
      rfl

/-- A row of plain cells is read back from its line. -/
theorem cellsOf_rowLine (hlength : row.length ≤ widths.length) (hne : row ≠ [])
    (h : ∀ cell ∈ row, IsPlainCell cell) : cellsOf (rowLine widths row) = row := by
  have hfilled : filledCells widths row ≠ [] := by
    rw [Ne, filledCells, List.zipWith_eq_nil_iff, not_or]
    exact ⟨fun hw => hne (by simpa [hw] using hlength), hne⟩
  have hbars : ∀ text ∈ filledCells widths row, '|' ∉ text.toList := by
    intro text htext hbar
    obtain ⟨w, cell, hmem, rfl⟩ := exists_of_mem_zipWith_filled htext
    rcases mem_filled hbar with hcell | hblank
    · exact (h cell hmem).no_bar hcell
    · exact absurd hblank (by decide)
  have hline : (rowLine widths row).toList =
      '|' :: (' ' :: (Text.joinWith " | " (filledCells widths row)).toList ++ [' ', '|']) := by
    simp [rowLine]
  rw [cellsOf, hline, Text.splitAt, if_pos rfl, splitAt_bars hfilled hbars, List.map_cons,
    List.tail_cons, List.map_append, List.map_singleton, List.dropLast_concat, List.map_map]
  exact map_filledCells hlength fun w cell hcell => (h cell hcell).trim_filled w

/-- A row that can be read back when it is drawn with these widths. -/
structure IsPlainRow (widths : List Nat) (row : List String) : Prop where
  /-- There is a cell. -/
  ne_nil : row ≠ []
  /-- Every cell has a width. -/
  length : row.length ≤ widths.length
  /-- Every cell can be read back. -/
  cells : ∀ cell ∈ row, IsPlainCell cell

/-- A row of plain cells is read back. -/
theorem read_drawnRow (h : IsPlainRow widths row) : read (drawnRow widths row) = [row] := by
  have hdrawn : drawnRow widths row = [rowLine widths row] :=
    drawnRow_of_isLine h.ne_nil fun cell hcell => (h.cells cell hcell).isLine
  have hcells : hasCells (rowLine widths row) = true := by
    rw [← List.forall_mem_singleton (p := (hasCells · = true)), ← hdrawn]
    exact fun _ => hasCells_of_mem_drawnRow
  rw [hdrawn, read_of_hasCells hcells, cellsOf_rowLine h.length h.ne_nil h.cells]

/-- Rows of plain cells are read back. -/
theorem read_drawnRows (h : ∀ row ∈ rows, IsPlainRow widths row) :
    read (drawnRows widths rows) = rows := by
  fun_induction drawnRows widths rows with
  | case1 => rfl
  | case2 row => exact read_drawnRow (h row List.mem_cons_self)
  | case3 row rows hne ih =>
    obtain ⟨hrow, hrest⟩ := List.forall_mem_cons.1 h
    rw [read_append, read_cons_of_not_hasCells (hasCells_rule (by decide) (by decide)),
      read_drawnRow hrow, ih hrest]
    rfl

/-- A table of plain cells is read back. -/
theorem read_drawn (h : ∀ row ∈ t.header :: t.rows, IsPlainRow t.widths row) :
    read (Text.lines t.drawn) = t.header :: t.rows := by
  obtain ⟨hheader, hrows⟩ := List.forall_mem_cons.1 h
  have hrule : ∀ fill middle, fill ≠ ' ' → hasCells (rule '+' fill middle t.widths) = false :=
    fun _ _ => hasCells_rule (by decide)
  rw [lines_drawn, read_append, read_append, read_cons_of_not_hasCells (hrule _ _ (by decide)),
    read_cons_of_not_hasCells (hrule _ _ (by decide)),
    read_cons_of_not_hasCells (hrule _ _ (by decide)), read_drawnRow hheader, read_drawnRows hrows]
  exact List.append_nil _

end Table

end AskLedger
