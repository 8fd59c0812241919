import Transcript.Store.Document

/-! The checkpoint table: one row for each thread and checkpoint. A write to a key that is
present appends to its document and updates who wrote last; the task path stays that of
the write that created the row. -/

namespace Transcript.Store

/-- The values of one write, in the order of the columns. -/
structure Row where
  threadId : Value
  promptId : Value
  sessionId : Value
  writtenAt : String
  checkpointId : Value
  document : String
  taskPath : String
deriving Inhabited

namespace Row

/-- The columns of the table with the values of a row. -/
def columns (row : Row) : Mapping :=
  [("thread_id", row.threadId), ("prompt_id", row.promptId), ("session_id", row.sessionId),
   ("checkpoint_ts", .str row.writtenAt), ("checkpoint_id", row.checkpointId),
   ("blob", .str row.document), ("task_path", .str row.taskPath)]

/-- The values in the order in which a statement takes them. -/
def values (row : Row) : List Value := row.columns.map (·.2)

def sameDocument (left right : Row) : Bool :=
  left.threadId.sameKey right.threadId && left.checkpointId.sameKey right.checkpointId

/-- The row of a present key after a further write. -/
def merge (present new : Row) : Row :=
  { present with
    promptId := new.promptId
    sessionId := new.sessionId
    writtenAt := new.writtenAt
    document := appendDocument present.document new.document }

end Row

abbrev Table := List Row

/-- Write a row: a new key is added, a present one takes the write up. -/
def upsert (table : Table) (row : Row) : Table :=
  if table.any fun present => present.sameDocument row then
    table.map fun present => if present.sameDocument row then present.merge row else present
  else table ++ [row]

/-- The row of a key. -/
def find? (table : Table) (threadId checkpointId : Value) : Option Row :=
  table.find? fun row => row.threadId.sameKey threadId && row.checkpointId.sameKey checkpointId

/-- The order of identifiers: numbers by size, everything else by its text. -/
def identifierLt (left right : Value) : Bool :=
  match left.integer?, right.integer? with
  | some number, some other => number < other
  | _, _ => left.shown < right.shown

/-- Rows in the order of their keys. -/
def sortedRows (table : Table) : Table :=
  table.mergeSort fun left right =>
    identifierLt left.threadId right.threadId ||
      (!identifierLt right.threadId left.threadId &&
        !identifierLt right.checkpointId left.checkpointId)

end Transcript.Store
