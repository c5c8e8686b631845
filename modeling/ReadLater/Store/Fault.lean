/-!
# Storage faults

The errors that a user's store raises, each with the text that callers wrap and report: a
category word, the detail, and the numeric result code in parentheses, the way the embedded
SQL engine describes them.
-/

namespace ReadLater.Store

/-- Why a statement on the store failed. -/
inductive Fault where
  | noSuchTable (name : String)
  | noSuchColumn (name : String)
  /-- An insert names a column that the table lacks. -/
  | noColumnNamed (table column : String)
  | tableExists (name : String)
  | indexExists (name : String)
  | triggerExists (name : String)
  | duplicateColumn (name : String)
  /-- A trigger aborted the statement with this message. -/
  | raised (message : String)
  /-- A row still refers to a row that the statement removes. -/
  | foreignKey
  /-- Two rows would share a value of a unique column. -/
  | unique (column : String)
  /-- The statement text does not parse at this token. -/
  | syntaxNear (token : String)
  /-- The store file cannot be opened. -/
  | cannotOpen
  deriving DecidableEq, Repr, Inhabited

namespace Fault

/-- The error text: category, detail and result code. -/
def message : Fault → String
  | .noSuchTable t => s!"SQL logic error: no such table: {t} (1)"
  | .noSuchColumn c => s!"SQL logic error: no such column: {c} (1)"
  | .noColumnNamed t c => s!"SQL logic error: table {t} has no column named {c} (1)"
  | .tableExists t => s!"SQL logic error: table {t} already exists (1)"
  | .indexExists i => s!"SQL logic error: index {i} already exists (1)"
  | .triggerExists t => s!"SQL logic error: trigger {t} already exists (1)"
  | .duplicateColumn c => s!"SQL logic error: duplicate column name: {c} (1)"
  | .raised m => s!"constraint failed: {m} (1811)"
  | .foreignKey => "constraint failed: FOREIGN KEY constraint failed (787)"
  | .unique c => s!"constraint failed: UNIQUE constraint failed: {c} (2067)"
  | .syntaxNear t => "SQL logic error: near \"" ++ t ++ "\": syntax error (1)"
  | .cannotOpen => "unable to open database file: out of memory (14)"

end Fault

end ReadLater.Store
