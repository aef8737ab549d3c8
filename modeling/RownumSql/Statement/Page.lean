import RownumSql.Query
import RownumSql.Statement.Progress

/-!
# Row windows

A query with a limit or an offset is wrapped into queries that number its rows: the inner one caps
the numbers, the outer one skips the first of them.  The bounds are bound under names of their own.
-/

namespace RownumSql

/-- The column that carries the number of a row. -/
def rowNumberColumn : String := "QAIL_RNUM"

/-- The names under which the bounds of a window are bound. -/
structure PageNames where
  /-- The number of the last row. -/
  maxRow : String
  /-- The number of rows that are skipped. -/
  offset : String
deriving DecidableEq, Repr

namespace PageNames

/-- The names of the outermost window. -/
def outer : PageNames := ⟨"QAIL_MAX_ROW_TO_FETCH", "QAIL_FETCH_OFFSET"⟩

/-- The names of the window of the `n`-th union branch that has one. -/
def branch (n : Nat) : PageNames :=
  ⟨outer.maxRow ++ "_" ++ toString n, outer.offset ++ "_" ++ toString n⟩

end PageNames

namespace Page

/-- The number of the last row of a window, or the greatest number if there is none so great. -/
def endRow (limit offset : UInt64) : UInt64 :=
  UInt64.ofNat (min (offset.toNat + limit.toNat) (UInt64.size - 1))

/-- The hint that only the first rows are wanted. -/
def hint (limit offset : UInt64) : String :=
  "/*+ FIRST_ROWS(" ++ toString (endRow limit offset).toNat ++ ") */"

/-- The text that opens a window. -/
def opening (limit offset : UInt64) : String :=
  if 0 < limit then
    if 0 < offset then
      "SELECT * FROM (SELECT " ++ hint limit offset ++ " a.*, ROWNUM " ++ rowNumberColumn
        ++ " FROM ("
    else "SELECT " ++ hint limit offset ++ " a.* FROM ("
  else if 0 < offset then "SELECT * FROM (SELECT a.*, ROWNUM " ++ rowNumberColumn ++ " FROM ("
  else ""

/-- The texts that close a window. -/
def closing (names : PageNames) (limit offset : UInt64) : WindowClosing where
  offset :=
    if 0 < offset then
      some ((if 0 < limit then ") WHERE " else ") a) WHERE ") ++ rowNumberColumn ++ " > :"
        ++ names.offset)
    else none
  limit := if 0 < limit then some (") a WHERE ROWNUM <= :" ++ names.maxRow) else none

def bindBounds (names : PageNames) (limit offset : UInt64) : Emit Unit := do
  if 0 < offset then Emit.bind names.offset (Value.ofUInt64 offset)
  if 0 < limit then Emit.bind names.maxRow (Value.ofUInt64 (endRow limit offset))

end Page

end RownumSql
