import AskLedger.Proofs.DrawnTables
import AskLedger.Proofs.MonthBuckets
import AskLedger.Proofs.ToldRows
import AskLedger.Report.Answer

/-!
# An answer told and shown

What is found is told to a model in plain lines and shown to a reader as a table. The first takes
its numbers from the summary of what is found and the second from the payload, and each says for
itself whether rows are left out. They say the same: of rows in detail the number, the total, the
span and how many are shown, which are then the rows that follow in the one and that the table of
the other has; and of a year the same months with the same numbers.

* `Answer.lines_toldDetail`, `Answer.blocks_shownDetail`: rows in detail, told and shown.
* `Answer.lines_toldYear`, `Answer.read_shownYear`: a year, told and shown.
* `Answer.told_as_shown`: the two texts agree.
-/

namespace AskLedger

open Text (IsLine IsInked)

namespace Answer

/-! ## Rows in detail -/

/-- Numbers, days and amounts are plain cells. -/
theorem isPlainCell_of_isNumeric {cell : String} (h : Text.IsNumeric cell) :
    Table.IsPlainCell cell where
  isLine := h.isSolid.isLine
  no_bar hbar := absurd (h _ hbar) (by decide)
  trimmed := Text.trim_eq_self h.isSolid

/-- The names of the columns in which rows in detail are shown. -/
def shownHeader : List String := ["Date", "Description", "Category", "Type", "Amount", "Recurring"]

/-- The cells in which an entry is shown. -/
def shownCells (e : Entry) : List String :=
  [e.day.written, e.description, e.category, e.direction.code, rupees e.amount, shownRecurrence e]

/-- Only what an entry is for and its label may be no plain cells. -/
theorem isPlainCell_of_mem_shownCells {e : Entry} (hdescription : Table.IsPlainCell e.description)
    (hcategory : Table.IsPlainCell e.category) : ∀ cell ∈ shownCells e, Table.IsPlainCell cell := by
  have hday := isPlainCell_of_isNumeric e.day.isNumeric_written
  have hamount := isPlainCell_of_isNumeric (isNumeric_rupees e.amount)
  have hcode : Table.IsPlainCell e.direction.code := by cases e.direction <;> decide
  have hrecurrence : Table.IsPlainCell (shownRecurrence e) := by
    unfold shownRecurrence
    split
    · next f _ => cases f <;> decide
    · split <;> decide
  simp only [shownCells, List.forall_mem_cons]
  exact ⟨hday, hdescription, hcategory, hcode, hamount, hrecurrence, by simp⟩

/-- The table of rows in detail has one block of lines for each row, below that of the header. -/
theorem blocks_detailTable (rows : List Entry) :
    Table.blocks (Text.lines (detailTable rows).drawn) =
      (shownHeader :: rows.map shownCells).map (Table.drawnRow (detailTable rows).widths) := by
  refine Table.blocks_drawn (List.forall_mem_cons.2 ⟨List.cons_ne_nil _ _, ?_⟩)
  exact List.forall_mem_map.2 fun e _ => List.cons_ne_nil _ _

/-- The table of rows in detail is read back if what its entries are for and their labels are. -/
theorem read_detailTable {rows : List Entry}
    (h : ∀ e ∈ rows, Table.IsPlainCell e.description ∧ Table.IsPlainCell e.category) :
    Table.read (Text.lines (detailTable rows).drawn) = shownHeader :: rows.map shownCells := by
  have hheader : ∀ cell ∈ shownHeader, Table.IsPlainCell cell := by decide
  have hlength : (detailTable rows).widths.length = 6 :=
    Table.length_widths (List.forall_mem_map.2 fun e _ => rfl)
  refine Table.read_drawn (List.forall_mem_cons.2 ⟨⟨List.cons_ne_nil _ _, hlength.ge, hheader⟩, ?_⟩)
  refine List.forall_mem_map.2 fun e he => ⟨List.cons_ne_nil _ _, hlength.ge, ?_⟩
  exact isPlainCell_of_mem_shownCells (h e he).1 (h e he).2

/-- The line of totals that is shown under rows in detail. -/
def totalsLine (d : Detail) (s : Summary) : String :=
  shownCount d ++ " | Total " ++ rupees d.total ++ shownSpan s

theorem isLine_totalsLine (d : Detail) (s : Summary) : IsLine (totalsLine d s) := by
  have hcount : IsLine (shownCount d) := by
    unfold shownCount
    split <;> simp only [Text.isLine_append, isLine_toString, true_and, and_true]
    · exact ⟨⟨by decide, by decide⟩, by decide⟩
    · decide
  have hspan : IsLine (shownSpan s) := by
    unfold shownSpan
    split
    · simp only [Text.isLine_append, Date.isLine_written, and_true]
      exact ⟨by decide, by decide⟩
    · decide
  unfold totalsLine
  simp only [Text.isLine_append, hcount, isLine_rupees, hspan, true_and, and_true]
  decide

/-- What is shown of rows in detail ends with a line of totals. -/
theorem lines_shownDetail (d : Detail) (s : Summary) :
    Text.lines (shownDetail d s) = Text.lines (detailTable d.rows).drawn ++ [totalsLine d s] := by
  have htext : shownDetail d s = (detailTable d.rows).drawn ++ "\n" ++ totalsLine d s := by
    simp only [shownDetail, totalsLine, String.append_assoc]
  rw [htext, Text.lines_below, Text.lines_of_isLine (isLine_totalsLine d s)]

/-- The line of totals is no row of the table. -/
theorem hasCells_totalsLine (d : Detail) (s : Summary) :
    Table.hasCells (totalsLine d s) = false := by
  have hnumber : ∀ n : Nat, '|' ∉ (toString n).toList := fun n =>
    (isPlainCell_of_isNumeric (isNumeric_toString n)).no_bar
  have hbar : '|' ∉ (shownCount d).toList := by
    unfold shownCount
    split <;> simp only [String.toList_append, List.mem_append, hnumber, or_false, not_or] <;> decide
  have hne : (shownCount d).toList ≠ [] := by
    unfold shownCount
    split <;> simp
  unfold totalsLine
  rw [String.append_assoc, String.append_assoc]
  exact Table.hasCells_append hne hbar _

/-- Rows in detail are shown as one block of lines each, below that of the header. -/
theorem blocks_shownDetail (d : Detail) (s : Summary) :
    Table.blocks (Text.lines (shownDetail d s)) =
      (shownHeader :: d.rows.map shownCells).map
        (Table.drawnRow (detailTable d.rows).widths) := by
  rw [lines_shownDetail, Table.blocks_concat (hasCells_totalsLine d s), blocks_detailTable]

/-- Rows in detail that are shown are read back if what they are for and their labels are. -/
theorem read_shownDetail {d : Detail} (s : Summary)
    (h : ∀ e ∈ d.rows, Table.IsPlainCell e.description ∧ Table.IsPlainCell e.category) :
    Table.read (Text.lines (shownDetail d s)) = shownHeader :: d.rows.map shownCells := by
  rw [lines_shownDetail, Table.read_append,
    Table.read_cons_of_not_hasCells (hasCells_totalsLine d s), read_detailTable h]
  exact List.append_nil _

/-! ## A year -/

/-- The first line about a year that is told. -/
def yearHeading (r : Rollup) : String :=
  "Year " ++ toString r.year ++ " summary: " ++ toString r.count ++ " transactions, total "
    ++ rupees r.total ++ "."

/-- The line about a month that is told. -/
def monthLine (m : MonthTotal) : String :=
  "- " ++ m.name ++ ": " ++ toString m.count ++ " transactions, " ++ rupees m.total

theorem isLine_yearHeading (r : Rollup) : IsLine (yearHeading r) := by
  unfold yearHeading
  simp only [Text.isLine_append, isLine_toString_int, isLine_toString, isLine_rupees, and_true]
  exact ⟨⟨⟨by decide, by decide⟩, by decide⟩, by decide⟩

theorem isLine_monthLine {m : MonthTotal} (h : IsLine m.name) : IsLine (monthLine m) := by
  unfold monthLine
  simp only [Text.isLine_append, h, isLine_toString, isLine_rupees, and_true]
  exact ⟨⟨by decide, by decide⟩, by decide⟩

/-- A year is told as a heading and a line for each month. -/
theorem toldYear_eq (r : Rollup) :
    toldYear r = Text.joinWith "\n" (yearHeading r :: r.months.map monthLine) := by
  have hend : "." ++ "\n" = ".\n" := by decide
  have hheading : yearHeading r ++ "\n" = "Year " ++ toString r.year ++ " summary: "
      ++ toString r.count ++ " transactions, total " ++ rupees r.total ++ ".\n" := by
    unfold yearHeading
    rw [String.append_assoc, hend]
  have htext : toldYear r = Text.trimmedEnd
      (String.join ((yearHeading r :: r.months.map monthLine).map (· ++ "\n"))) := by
    rw [List.map_cons, String.join_cons, hheading, List.map_map]
    rfl
  -- every line ends in ink, so that trimming the end of the text takes the last line feed only
  have hinked : ∀ t ∈ yearHeading r :: r.months.map monthLine,
      IsInked t ∧ Text.trimmedEnd t = t := by
    refine List.forall_mem_cons.2 ⟨⟨?_, ?_⟩, List.forall_mem_map.2 fun m _ => ⟨?_, ?_⟩⟩
    · exact IsInked.append_right _ ⟨'.', by decide, by decide⟩
    · exact Text.IsSolid.trimmedEnd_append (by decide) (by decide) _
    · exact ((isNumeric_rupees m.total).isSolid.isInked (by simp [rupees])).append_right _
    · exact (isNumeric_rupees m.total).isSolid.trimmedEnd_append (by simp [rupees]) _
  rw [htext, Text.trimmedEnd_join (List.cons_ne_nil _ _) fun t ht => (hinked t ht).1,
    Text.trimLast_eq_self_iff.2 fun t ht => (hinked t (List.mem_of_getLast? ht)).2]

/-- A year that is told has a heading and a line for each month. -/
theorem lines_toldYear {r : Rollup} (h : ∀ m ∈ r.months, IsLine m.name) :
    Text.lines (toldYear r) = yearHeading r :: r.months.map monthLine := by
  rw [toldYear_eq, Text.lines_joinWith_eq_self (List.cons_ne_nil _ _)]
  refine List.forall_mem_cons.2 ⟨isLine_yearHeading r, List.forall_mem_map.2 fun m hm => ?_⟩
  exact isLine_monthLine (h m hm)

/-- The names of the months are plain cells. -/
theorem isPlainCell_of_mem_monthNames : ∀ name ∈ monthNames, Table.IsPlainCell name := by
  decide

/-- The table of a year is read back. -/
theorem read_yearTable {r : Rollup} (h : ∀ m ∈ r.months, m.name ∈ monthNames) :
    Table.read (Text.lines (yearTable r).drawn) = (yearTable r).header :: (yearTable r).rows := by
  have hheader : ∀ cell ∈ ["Month", "Transactions", "Total"], Table.IsPlainCell cell := by decide
  -- every row has a name, a number and a total
  have hrows : ∀ row ∈ (yearTable r).rows, ∃ (name : String) (count : Nat) (total : Float),
      row = [name, toString count, rupees total] ∧ Table.IsPlainCell name := by
    intro row hrow
    rcases List.mem_append.1 hrow with hmonth | hlast
    · obtain ⟨m, hm, rfl⟩ := List.mem_map.1 hmonth
      exact ⟨_, m.count, _, rfl, isPlainCell_of_mem_monthNames _ (h m hm)⟩
    · obtain rfl := List.mem_singleton.1 hlast
      exact ⟨_, r.count, _, rfl, hheader _ (by simp)⟩
  have hlength : (yearTable r).widths.length = 3 := by
    refine Table.length_widths fun row hrow => ?_
    obtain ⟨name, count, total, rfl, -⟩ := hrows row hrow
    rfl
  refine Table.read_drawn (List.forall_mem_cons.2 ⟨⟨List.cons_ne_nil _ _, hlength.ge, hheader⟩, ?_⟩)
  intro row hrow
  obtain ⟨name, count, total, rfl, hname⟩ := hrows row hrow
  refine ⟨List.cons_ne_nil _ _, hlength.ge, ?_⟩
  simp only [List.forall_mem_cons]
  exact ⟨hname, isPlainCell_of_isNumeric (isNumeric_toString count),
    isPlainCell_of_isNumeric (isNumeric_rupees total), by simp⟩

/-- What is shown of a year starts with a title, and its table lists the months and the whole. -/
theorem read_shownYear {r : Rollup} (h : ∀ m ∈ r.months, m.name ∈ monthNames) :
    (Text.lines (shownYear r)).head? = some ("Monthly summary for " ++ toString r.year) ∧
      Table.read (Text.lines (shownYear r)) = ["Month", "Transactions", "Total"] ::
        (r.months.map fun m => [m.name, toString m.count, rupees m.total])
        ++ [["Total", toString r.count, rupees r.total]] := by
  have htitle : IsLine ("Monthly summary for " ++ toString r.year) :=
    Text.isLine_append.2 ⟨by decide, isLine_toString_int _⟩
  have hcells : Table.hasCells ("Monthly summary for " ++ toString r.year) = false := by
    simp [Table.hasCells, List.isPrefixOf]
  unfold shownYear
  rw [Text.lines_below, Text.lines_of_isLine htitle, List.singleton_append,
    Table.read_cons_of_not_hasCells hcells, read_yearTable h]
  exact ⟨rfl, rfl⟩

/-! ## Every answer -/

/-- What is said about rows in detail. -/
structure DetailStory where
  /-- How many entries match. -/
  count : Nat
  /-- How many of them are shown. -/
  shown : Nat
  /-- The total of all of them, as text. -/
  total : String
  /-- The day of the earliest. -/
  first : Date
  /-- The day of the latest. -/
  last : Date

namespace DetailStory

/-- The story of a summary, of which `shown` rows are shown. -/
def of (s : Summary) (shown : Nat) (first last : Moment) : DetailStory :=
  ⟨s.count, shown, rupees s.total, first.date, last.date⟩

/-- The lines in front of the rows, as a model is told the story. -/
def toldLines (t : DetailStory) : List String :=
  ("Matching transactions: " ++ toString t.count ++ ", total " ++ t.total ++ ", from "
    ++ t.first.written ++ " to " ++ t.last.written ++ ".") ::
  if t.shown < t.count then ["Showing the first " ++ toString t.shown ++ ":"] else []

/-- The line under the rows, as a reader is shown the story. -/
def shownLine (t : DetailStory) : String :=
  (if t.shown < t.count then
    "Showing " ++ toString t.shown ++ " of " ++ toString t.count ++ " transactions"
  else toString t.count ++ " transactions")
    ++ " | Total " ++ t.total ++ " | " ++ t.first.written ++ " to " ++ t.last.written

variable {d : Detail} {s : Summary} {first last : Moment}

/-- What is told in front of the rows is the story. -/
theorem toldLines_of (rows : List Entry) (hfirst : s.first? = some first)
    (hlast : s.last? = some last) :
    headingLine s :: cutLines rows s = (DetailStory.of s rows.length first last).toldLines := by
  unfold headingLine cutLines toldSpan
  rw [hfirst, hlast]
  simp only [← String.append_assoc]
  rfl

/-- What is shown below the rows is the story. -/
theorem shownLine_of (hcount : d.count = s.count) (htotal : d.total = s.total)
    (hfirst : s.first? = some first) (hlast : s.last? = some last) :
    totalsLine d s = (DetailStory.of s d.rows.length first last).shownLine := by
  unfold totalsLine shownCount shownSpan
  rw [hfirst, hlast, hcount, htotal]
  simp only [← String.append_assoc]
  rfl

/-- The story and then the rows, as they are told. -/
structure IsToldIn (t : DetailStory) (rows : List Entry) (text : String) : Prop where
  /-- The lines of the story come first and those of the rows behind them. -/
  lines : Text.lines text = t.toldLines ++ (rowTexts rows).flatMap Text.lines
  /-- As many rows follow as the story says. -/
  length : (rowTexts rows).length = t.shown
  /-- Each starts like a row. -/
  isRowLine : ∀ row ∈ rowTexts rows, isRowLine row = true

/-- The rows and then the story, as they are shown. -/
structure IsShownIn (t : DetailStory) (rows : List Entry) (text : String) : Prop where
  /-- The lines of the table come first and that of the story behind them. -/
  lines : Text.lines text = Text.lines (detailTable rows).drawn ++ [t.shownLine]
  /-- The table has a block of lines for its header and one for the cells of each row. -/
  blocks : Table.blocks (Text.lines text) =
    (shownHeader :: rows.map shownCells).map (Table.drawnRow (detailTable rows).widths)
  /-- Below the header there are as many blocks as the story says. -/
  length : (Table.blocks (Text.lines text)).length = t.shown + 1
  /-- The cells are read back if what the rows are for and their labels are. -/
  read : (∀ e ∈ rows, Table.IsPlainCell e.description ∧ Table.IsPlainCell e.category) →
    Table.read (Text.lines text) = shownHeader :: rows.map shownCells

end DetailStory

/-- Rows in detail are told and shown with one story, if their numbers are those of the summary. -/
theorem detail_story (d : Detail) {s : Summary} {first last : Moment} (hcount : d.count = s.count)
    (htotal : d.total = s.total) (hfirst : s.first? = some first) (hlast : s.last? = some last) :
    let story := DetailStory.of s d.rows.length first last
    story.IsToldIn d.rows (toldDetail d.rows s) ∧ story.IsShownIn d.rows (shownDetail d s) := by
  refine ⟨⟨?_, ?_, fun row => isRowLine_of_mem_rowTexts⟩,
    ⟨?_, blocks_shownDetail d s, ?_, read_shownDetail s⟩⟩
  · rw [lines_toldDetail, DetailStory.toldLines_of _ hfirst hlast]
  · rw [rowTexts, Text.length_trimLast, List.length_map]
    rfl
  · rw [lines_shownDetail, DetailStory.shownLine_of hcount htotal hfirst hlast]
  · rw [blocks_shownDetail, List.length_map, List.length_cons, List.length_map]
    rfl

theorem isByMonth_months (y : YearSummary) : YearSummary.IsByMonth y.rows y.rollup.months := by
  rw [YearSummary.rollup_eq]
  exact YearSummary.isByMonth_monthTotals y.rows

/-- A year is told and shown with the same months. -/
theorem year_story (y : YearSummary) :
    Text.lines (toldYear y.rollup) = yearHeading y.rollup :: y.rollup.months.map monthLine ∧
      (Text.lines (shownYear y.rollup)).head? = some ("Monthly summary for " ++ toString y.year) ∧
      Table.read (Text.lines (shownYear y.rollup)) = ["Month", "Transactions", "Total"] ::
        (y.rollup.months.map fun m => [m.name, toString m.count, rupees m.total])
        ++ [["Total", toString y.rollup.count, rupees y.rollup.total]] := by
  have hmonths := isByMonth_months y
  have hnames : ∀ m ∈ y.rollup.months, m.name ∈ monthNames := fun m hm =>
    List.mem_of_getElem? (hmonths.named m hm).2
  refine ⟨lines_toldYear fun m hm => ?_, read_shownYear hnames⟩
  exact (isPlainCell_of_mem_monthNames _ (hnames m hm)).isLine

/-- What is found is told and shown alike. Of rows in detail both texts give one account: the number
and the total of what is found and its first and last day, and how many rows are shown if not all
are. So many rows follow where it is told, and so many stand in the table where it is shown, the
same ones in the same order. Of a year both list the same months in the order of the calendar, with
the same numbers and totals, and the numbers add up to that of the year. -/
theorem told_as_shown {q : Question} {payload : Payload} {s : Summary}
    (h : q.answer = .found payload s) :
    ∃ told, q.answer.told? = some told ∧
      (∀ d, payload = .detail d → ∃ first last, s.first? = some first ∧ s.last? = some last ∧
        let story := DetailStory.of s (min q.options.shownRows s.count) first last
        d.rows = q.shortlist.entries.take story.shown ∧ d.rows.length = story.shown ∧
        story.IsToldIn d.rows told ∧ story.IsShownIn d.rows q.answer.shown) ∧
      ∀ y, payload = .year y →
        Text.lines told = yearHeading y.rollup :: y.rollup.months.map monthLine ∧
        (Text.lines q.answer.shown).head? = some ("Monthly summary for " ++ toString y.year) ∧
        Table.read (Text.lines q.answer.shown) = ["Month", "Transactions", "Total"] ::
          (y.rollup.months.map fun m => [m.name, toString m.count, rupees m.total])
          ++ [["Total", toString y.rollup.count, rupees y.rollup.total]] ∧
        YearSummary.IsByMonth q.shortlist.entries y.rollup.months ∧
        MonthTotal.countAll y.rollup.months = y.rollup.count ∧ y.rollup.count = s.count := by
  obtain ⟨hne, rfl, year?, rfl⟩ := Question.found_iff h
  obtain ⟨first, -, last, -, hfirst, hlast, -⟩ := Summary.span_of hne
  cases year? with
  | none =>
    refine ⟨_, congrArg told? h, fun d hd => ?_, fun y hy => by cases hy⟩
    obtain rfl := Payload.detail.inj hd
    -- the payload takes its numbers from all entries, as the summary does, and its rows from a part
    have hlength : (q.shortlist.entries.take q.options.shownRows).length =
        min q.options.shownRows (Summary.of q.shortlist.entries).count := List.length_take
    refine ⟨_, _, hfirst, hlast, List.take_eq_take_min, hlength, ?_⟩
    rw [h, ← hlength]
    exact detail_story ⟨q.shortlist.entries.take q.options.shownRows, _, _⟩ rfl rfl hfirst hlast
  | some year =>
    refine ⟨_, congrArg told? h, fun d hd => (by cases hd), fun y hy => ?_⟩
    obtain rfl := Payload.year.inj hy
    obtain ⟨htold, htitle, hshown⟩ := year_story ⟨year, q.shortlist.entries⟩
    rw [h]
    exact ⟨htold, htitle, hshown, isByMonth_months ⟨year, _⟩, rfl,
      YearSummary.count_rollup _⟩

/-- A question that finds three entries and shows one of them. -/
def aboutOneCent : Question where
  text := "expenses".toList
  ledger := Question.cents
  now := Question.rent.date
  options := { shownRows := 1 }

/-- Three entries of which one is told and shown. -/
theorem one_of_three :
    aboutOneCent.answer =
        .found (.detail ⟨Question.cents.take 1, (Summary.of Question.cents).total, 3⟩)
          (.of Question.cents) ∧
      ∃ told, aboutOneCent.answer.told? = some told ∧
        (Text.lines told)[1]? = some "Showing the first 1:" ∧
        (Text.lines aboutOneCent.answer.shown).getLast? =
          some "Showing 1 of 3 transactions | Total ₹0.60 | 2024-01-05 to 2024-02-09" ∧
        (Table.blocks (Text.lines aboutOneCent.answer.shown)).length = 2 := by
  have hanswer : aboutOneCent.answer =
      .found (.detail ⟨Question.cents.take 1, (Summary.of Question.cents).total, 3⟩)
        (.of Question.cents) := by
    rfl
  obtain ⟨told, htold, hdetail, -⟩ := told_as_shown hanswer
  obtain ⟨first, last, hfirst, hlast, -, -, htoldIn, hshownIn⟩ := hdetail _ rfl
  have hspan : (Summary.of Question.cents).first? = some (.startOf ⟨2024, 1, 5, by decide⟩) ∧
      (Summary.of Question.cents).last? = some (.startOf ⟨2024, 2, 9, by decide⟩) := by
    decide +kernel
  obtain rfl := Option.some.inj (hspan.1.symm.trans hfirst)
  obtain rfl := Option.some.inj (hspan.2.symm.trans hlast)
  refine ⟨hanswer, told, htold, ?_, ?_, hshownIn.length⟩
  · rw [htoldIn.lines]
    rfl
  · rw [hshownIn.lines, List.getLast?_concat, Option.some_inj]
    decide +kernel

end Answer

end AskLedger
