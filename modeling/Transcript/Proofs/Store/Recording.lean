import Transcript.Proofs.Pool.Numbers
import Transcript.Proofs.Store.Document
import Transcript.Proofs.Store.Table
import Transcript.Store.Writer

/-! Writes at work in a pool. The database takes a row as a whole or leaves its table alone;
what it took is kept in a ledger that no write reads. -/

namespace Transcript.Store

/-- A write that the database took, with the number of the call that handed it in. -/
structure Write where
  number : Nat
  batch : List Message
  identity : Identity
  row : Row

/-- A table with the writes that it took, in order. -/
structure Ledger where
  table : Table
  written : List Write := []

/-- A write at work: its job and, once the database has answered, the answer. -/
structure Writing where
  job : WriteJob
  answer : Option (Except Breakdown Unit) := none

/-- What the database may do with a write. -/
inductive Ledger.Answers (join : String → String → Option String) (write : Write)
    (before : Ledger) : Except Breakdown Unit → Ledger → Prop where
  | took {table} (merged : upsertWith join before.table write.row = some table) :
      Answers join write before (.ok ()) ⟨table, before.written ++ [write]⟩
  | failed (breakdown : Breakdown) : Answers join write before (.error breakdown) before

namespace Writing

/-- A batch that is handed in under the key of its identity. -/
inductive Offered (schema : String) : Value → Writing → Prop where
  | batch {messages : List Message} (some : messages ≠ [])
      (threadId promptId sessionId checkpointId : String) :
      Offered schema (Identity.ofTexts threadId promptId sessionId checkpointId).storageKey
        ⟨{ schema
           batch := messages
           identity := .ofTexts threadId promptId sessionId checkpointId }, none⟩

/-- A write first prepares its row and then goes to the database. -/
inductive Moves (join : String → String → Option String) (number : Nat) :
    Writing → Office Ledger → Writing → Office Ledger → Prop where
  | prepared {job office} (fresh : job.row = none) :
      Moves join number ⟨job, none⟩ office ⟨(job.begin office).1, none⟩ (job.begin office).2
  | answered {job row outcome store} {office : Office Ledger} (ready : job.row = some row)
      (answers : office.store.Answers join ⟨number, job.batch, job.identity, row⟩ outcome store) :
      Moves join number ⟨job, none⟩ office ⟨job, some outcome⟩ { office with store }

/-- A write ends by noting what the database answered. -/
inductive Ends : Writing → Office Ledger → Ending → Office Ledger → Prop where
  | concluded {job row outcome office} (ready : job.row = some row) :
      Ends ⟨job, some outcome⟩ office (WriteJob.ending (job.conclude row outcome office).1)
        (job.conclude row outcome office).2

end Writing

/-- Batches that are written to a schema of a database that joins documents in some way. -/
def recording (schema : String) (join : String → String → Option String) :
    Pool.Conduct Writing Ledger where
  offers := Writing.Offered schema
  moves ticket := Writing.Moves join ticket.number ticket.job
  ends ticket := Writing.Ends ticket.job

variable {schema : String} {join : String → String → Option String}

@[simp] theorem Database.arrive_check (database : Database) (statement : Statement) (site : Site) :
    (database.arrive statement).check site = database.check site := rfl

/-- Where commits do not fail, a write that fails leaves the table as it was. -/
theorem Database.write_table {database : Database} (commits : database.check .commit = .ok ())
    (sql : String) (row : Row) :
    (∃ breakdown, (database.write sql row).1 = .error breakdown ∧
      (database.write sql row).2.table = database.table) ∨
    (database.write sql row).1 = .ok () ∧
      (database.write sql row).2.table = upsert database.table row := by
  unfold write insert
  cases database.check .connection with
  | error breakdown => exact .inl ⟨breakdown, rfl, rfl⟩
  | ok =>
    simp only [arrive_check]
    cases database.check .insert with
    | error breakdown => exact .inl ⟨breakdown, rfl, rfl⟩
    | ok =>
      have last (table : Table) : Database.check
          { database.arrive ⟨sql, row.values⟩ with table } .commit = .ok () := commits
      refine .inr ?_
      simp only [commit, last, true_and]
      rfl

/-- A database whose commits do not fail takes a row as a whole or not at all. -/
theorem Database.write_answers {database : Database} (commits : database.check .commit = .ok ())
    (sql : String) (write : Write) (written : List Write) :
    ∃ after, Ledger.Answers appended write ⟨database.table, written⟩
        (database.write sql write.row).1 after ∧
      after.table = (database.write sql write.row).2.table := by
  rcases write_table commits sql write.row with ⟨breakdown, outcome, table⟩ | ⟨outcome, table⟩
  · rw [outcome, table]
    exact ⟨_, .failed breakdown, rfl⟩
  · rw [outcome, table]
    exact ⟨_, .took (upsertWith_appended _ _), rfl⟩

/-- A row that says what a write of a batch is to say. -/
structure Row.Records (row : Row) (batch : List Message) (identity : Identity) : Prop where
  threadId : row.threadId = identity.threadId
  promptId : row.promptId = identity.promptId
  sessionId : row.sessionId = identity.sessionId
  checkpointId : row.checkpointId = identity.checkpointId
  document : row.document = Json.render .stored (.arr (batchItems batch))
  taskPath : row.taskPath = (TaskPath.ofIntents (TaskPath.intents batch)).name

theorem WriteJob.prepareRow_records (job : WriteJob) (desk : Desk) :
    (job.prepareRow desk).1.Records job.batch job.identity where
  threadId := rfl
  promptId := rfl
  sessionId := rfl
  checkpointId := rfl
  document := document_eq job.batch job.identity desk
  taskPath := rfl

theorem Row.Records.isUnder_eq {row : Row} {batch : List Message} {identity : Identity}
    (records : row.Records batch identity) (thread checkpoint : String) :
    row.isUnder thread checkpoint =
      identity.storageKey.sameKey (.tuple [.str thread, .str checkpoint]) := by
  simp [isUnder, records.threadId, records.checkpointId, Identity.storageKey, Value.sameKey,
    Value.sameKeys]

@[simp] theorem WriteJob.conclude_store {σ : Type} (job : WriteJob) (row : Row)
    (outcome : Except Breakdown Unit) (office : Office σ) :
    (job.conclude row outcome office).2.store = office.store := by
  unfold conclude
  split
  · rfl
  · split <;> rfl

theorem Writing.Offered.key_eq {key : Value} {writing : Writing}
    (offered : Offered schema key writing) : key = writing.job.identity.storageKey := by
  cases offered
  rfl

theorem Writing.Offered.fresh {key : Value} {writing : Writing}
    (offered : Offered schema key writing) : writing.job.row = none := by
  cases offered
  rfl

theorem Writing.Offered.eq_of_sameKey {key : Value} {writing : Writing}
    (offered : Offered schema key writing) {thread checkpoint : String}
    (same : key.sameKey (.tuple [.str thread, .str checkpoint]) = true) :
    key = .tuple [.str thread, .str checkpoint] := by
  cases offered
  simpa [Identity.storageKey, Identity.ofTexts, Value.sameKey, Value.sameKeys] using same

/-- A write moves as long as it has no answer, and only its answer changes the ledger. -/
theorem Writing.Moves.ledger {now next : Writing} {number : Nat} {before after : Office Ledger}
    (moves : Moves join number now before next after) :
    now.answer = none ∧ (after.store = before.store ∨ ∃ row, now.job.row = some row ∧
      next = ⟨now.job, some (.ok ())⟩ ∧
      upsertWith join before.store.table row = some after.store.table ∧
      after.store.written =
        before.store.written ++ [⟨number, now.job.batch, now.job.identity, row⟩]) := by
  cases moves with
  | prepared => exact ⟨rfl, .inl rfl⟩
  | answered ready answers =>
    cases answers with
    | took merged => exact ⟨rfl, .inr ⟨_, ready, rfl, merged, rfl⟩⟩
    | failed => exact ⟨rfl, .inl rfl⟩

theorem Writing.Ends.ledger {now : Writing} {ending : Ending} {before after : Office Ledger}
    (ends : Ends now before ending after) : after.store = before.store := by
  cases ends
  exact WriteJob.conclude_store _ _ _ _

/-- A write goes on from how it was handed in. -/
structure Writing.Continues (start now : Writing) : Prop where
  batch : now.job.batch = start.job.batch
  identity : now.job.identity = start.job.identity
  row : start.job.row = none → ∀ row, now.job.row = some row →
    row.Records start.job.batch start.job.identity

theorem Writing.Continues.refl (writing : Writing) : writing.Continues writing where
  batch := rfl
  identity := rfl
  row none _ some := by simp [none] at some

theorem Writing.Continues.moves {start now next : Writing} {number : Nat}
    {before after : Office Ledger} (continues : start.Continues now)
    (moves : Writing.Moves join number now before next after) : start.Continues next := by
  obtain ⟨batch, identity, row⟩ := continues
  cases moves with
  | prepared fresh =>
    refine ⟨batch, identity, fun none row found => ?_⟩
    cases found
    rw [← batch, ← identity]
    exact WriteJob.prepareRow_records _ _
  | answered => exact ⟨batch, identity, row⟩

/-- A write whose row says what the batch of an accepted call says. -/
def Write.ComesFrom (log : List (Pool.Event Writing)) (write : Write) : Prop :=
  write.row.Records write.batch write.identity ∧
    ∃ ticket lane, .accepted ticket lane ∈ log ∧ ticket.number = write.number ∧
      ticket.key = write.identity.storageKey ∧ ticket.job.job.batch = write.batch ∧
      ticket.job.job.identity = write.identity

end Transcript.Store
