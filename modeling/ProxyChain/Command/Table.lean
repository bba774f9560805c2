/-!
# ProxyChain.Command.Table

**Tables**: columns of text under their names, each as wide as its widest cell, with a rule below
the names.
-/

namespace ProxyChain.Command

/-- A text with blanks behind it up to some width. -/
def padded (width : Nat) (cell : String) : String :=
  cell ++ String.ofList (List.replicate (width - cell.length) ' ')

/-- The widths of columns, given the names and the rows. -/
def columnWidths (names : List String) (rows : List (List String)) : List Nat :=
  rows.foldl (fun widths row =>
    widths.zipWith max (row.map String.length ++ List.replicate widths.length 0))
    (names.map String.length)

/-- The lines of a table. -/
def tableLines (names : List String) (rows : List (List String)) : List String :=
  let widths := columnWidths names rows
  let line (cells : List String) : String := "  ".intercalate (List.zipWith padded widths cells)
  let rule := String.ofList (List.replicate ((widths.foldl (· + ·) 0) + 2 * (widths.length - 1)) '-')
  line names :: rule :: rows.map line

end ProxyChain.Command
