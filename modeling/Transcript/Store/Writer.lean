import Transcript.Gateway
import Transcript.Pool.Schedule
import Transcript.Store.Database
import Transcript.Store.Statements
import Transcript.TaskPath

/-! Writing batches. A write first prepares the row, which cannot fail, and then takes it
to the database, which can: a batch that the database refuses is dropped and noted. -/

namespace Transcript.Store

/-- A batch on its way into the database of a schema; the row is there once it is prepared. -/
structure WriteJob where
  schema : String
  batch : List Message
  identity : Identity
  row : Option Row := none

/-- Why a batch is dropped after a breakdown. A crash is no reason: it goes on upwards. -/
def Outage.dropReason? : Outage → Option String
  | .timeout => some "pool_timeout"
  | .operational | .constraint => some "query_error"
  | .crash => none

/-- How the drop of a batch is noted. -/
def Outage.dropNotice (outage : Outage) (identity : Identity) (cause : String) : Notice :=
  match outage with
  | .timeout => .noConnection identity cause
  | .operational | .constraint | .crash => .upsertFailed identity cause

namespace WriteJob

variable {σ : Type}

/-- The row that a batch makes: its document, its label and the time. -/
def prepareRow (job : WriteJob) (desk : Desk) : Row × Desk :=
  let (document, desk) := document job.batch job.identity desk
  let (path, desk) := TaskPath.classify job.batch desk
  let (writtenAt, desk) := desk.stamp
  ({ threadId := job.identity.threadId
     promptId := job.identity.promptId
     sessionId := job.identity.sessionId
     writtenAt
     checkpointId := job.identity.checkpointId
     document
     taskPath := path.name }, desk)

/-- The first phase of a write. -/
def begin (job : WriteJob) (office : Office σ) : WriteJob × Office σ :=
  let (row, desk) := job.prepareRow office.desk
  ({ job with row := some row }, { office with desk })

/-- Note how a write went, and say whether the batch was written. -/
def conclude (job : WriteJob) (row : Row) (outcome : Except Breakdown Unit)
    (office : Office σ) : Except Breakdown Bool × Office σ :=
  match outcome with
  | .ok () =>
    (.ok true,
      (office.note (.batchWritten job.identity job.batch.length row.taskPath)).note
        (Tally.notice (.written row.taskPath)))
  | .error breakdown =>
    match breakdown.outage.dropReason? with
    | some reason =>
      (.ok false,
        (office.note (breakdown.outage.dropNotice job.identity breakdown.message)).note
          (Tally.notice (.dropped reason 1)))
    | none => (.error breakdown, office)

/-- The second phase of a write. A job that was never prepared has nothing to write. -/
def complete (job : WriteJob) (office : Office Database) :
    Except Breakdown Bool × Office Database :=
  match job.row with
  | none => (.ok true, office)
  | some row =>
    let (outcome, database) := office.store.write (upsertStatement job.schema) row
    job.conclude row outcome { office with store := database }

/-- Write a batch at once; an empty one is left alone. -/
def run (job : WriteJob) (office : Office Database) : Except Breakdown Bool × Office Database :=
  if job.batch.isEmpty then (.ok true, office)
  else
    let (job, office) := job.begin office
    job.complete office

/-- How a write ends that runs on a worker: only a crash shows. -/
def ending : Except Breakdown Bool → Ending
  | .ok _ => .returned
  | .error breakdown => .raised breakdown.message

/-- Writes at work: a prepared write waits as long as connections are held back. -/
def work : Pool.Work WriteJob (Office Database) where
  begin := begin
  ready _ office := !office.store.held
  finish _ job pool office :=
    let (outcome, office) := job.complete office
    (ending outcome, pool, office)
  note notice office := office.note notice
  weight _ := 1

end WriteJob

end Transcript.Store
