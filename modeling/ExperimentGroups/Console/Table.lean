import ExperimentGroups.Console.Wrap

/-!
# Tables of the console

A column is as wide as its widest cell asks for. A cell may have several lines, and then a row of
cells takes as many lines of the table, in which the other cells are empty.

## Main definitions

* `Table.across`: what stands at the same place in some lists
* `Table.columnLines`: the lines of the cells of a column
* `Table.rows`: the lines of all cells, row by row
* `Table.lines`: what shows of the lines of a table, each with a part of every column
-/

namespace ExperimentGroups

namespace Table

/-- **What stands at the same place in some lists**, place by place; a list that is too short has a
blank there. -/
def across {α : Type} (blank : α) (lists : List (List α)) : List (List α) :=
  (List.range ((lists.map List.length).foldl max 0)).map fun i => lists.map (·.getD i blank)

/-- The width of a column. -/
def columnWidth (cells : List Marked) : Nat :=
  (cells.map fun t => Wrap.measure t.chars).foldl max 0

/-- **The lines of the cells of a column.** -/
def columnLines (cells : List Marked) : List (List Marked) :=
  cells.map (Wrap.lines .ellipsis (columnWidth cells))

/-- **The cells of a table** with some columns, row by row, each with its lines. -/
def rows (columns : List (List Marked)) : List (List (List Marked)) :=
  across [] (columns.map columnLines)

/-- What shows of the lines of the cells of a column. -/
def drawnColumn (cells : List Marked) : List (List (List Char)) :=
  (columnLines cells).map (·.map (Marked.drawn (columnWidth cells)))

/-- **The lines of a table** with some columns. -/
def lines (columns : List (List Marked)) : List (List (List Char)) :=
  (across [] (columns.map drawnColumn)).flatMap (across [])

end Table

end ExperimentGroups
