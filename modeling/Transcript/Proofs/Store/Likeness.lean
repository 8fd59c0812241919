import Transcript.Proofs.Store.Recording

namespace Transcript

open Store (Writing Ledger)
open Pool (Ticket)

theorem Store.document_stamps (batch : List Message) (identity : Identity) (desk : Desk) :
    (Store.document batch identity desk).2.stamps = desk.stamps := by
  unfold Store.document
  split
  · rfl
  · dsimp only
    split <;> rfl

theorem TaskPath.classify_stamps (batch : List Message) (desk : Desk) :
    (TaskPath.classify batch desk).2.stamps = desk.stamps := by
  unfold TaskPath.classify
  dsimp only
  induction TaskPath.anomalies (TaskPath.intents batch) generalizing desk with
  | nil => rfl
  | cons tag rest ih => exact ih _

theorem Pool.noteEach_eq {σ : Type} (notices : List Notice) (office : Office σ) :
    Pool.noteEach notices office =
      { office with desk := { office.desk with notices := office.desk.notices ++ notices } } := by
  induction notices generalizing office with
  | nil => rw [List.append_nil]; rfl
  | cons notice rest ih => exact (ih (office.note notice)).trans (by simp [Office.note, Desk.note])

namespace Store

namespace WriteJob

variable {σ τ : Type} (job : WriteJob)

theorem prepareRow_stamps (desk : Desk) :
    (job.prepareRow desk).2.stamps = desk.stamps + 1 := by
  unfold prepareRow
  dsimp only [Desk.stamp]
  rw [TaskPath.classify_stamps, document_stamps]

theorem prepareRow_eq {desk other : Desk} (same : desk.stamps = other.stamps) :
    (job.prepareRow desk).1 = (job.prepareRow other).1 := by
  unfold prepareRow
  dsimp only [Desk.stamp]
  rw [TaskPath.classify_stamps, TaskPath.classify_stamps, document_stamps, document_stamps, same,
    document_eq, document_eq]
  rfl

theorem begin_eq {office : Office σ} {other : Office τ}
    (same : office.desk.stamps = other.desk.stamps) :
    (job.begin office).1 = (job.begin other).1 := by
  change { job with row := some (job.prepareRow office.desk).1 } =
    { job with row := some (job.prepareRow other.desk).1 }
  rw [job.prepareRow_eq same]

theorem begin_stamps (office : Office σ) :
    (job.begin office).2.desk.stamps = office.desk.stamps + 1 :=
  job.prepareRow_stamps office.desk

theorem complete_eq {row : Row} (ready : job.row = some row) (office : Office Database) :
    job.complete office =
      job.conclude row (office.store.write (upsertStatement job.schema) row).1
        { office with store := (office.store.write (upsertStatement job.schema) row).2 } := by
  unfold complete
  rw [ready]

theorem conclude_outcome (row : Row) (outcome : Except Breakdown Unit) (office : Office σ)
    (other : Office τ) :
    (job.conclude row outcome office).1 = (job.conclude row outcome other).1 := by
  unfold conclude
  split
  · rfl
  · split <;> rfl

theorem conclude_stamps (row : Row) (outcome : Except Breakdown Unit) (office : Office σ) :
    (job.conclude row outcome office).2.desk.stamps = office.desk.stamps := by
  unfold conclude
  split
  · rfl
  · split <;> rfl

end WriteJob

/-- The same entry of a queue: a batch whose row is still to be prepared, or the marker. -/
inductive SameEntry : Entry (Ticket Writing) → Entry WriteJob → Prop where
  | job {number key job} (fresh : job.row = none) :
      SameEntry (.job ⟨number, key, ⟨job, none⟩⟩) (.job job)
  | stop : SameEntry .stop .stop

/-- The same worker: what it writes is prepared and has no answer. -/
inductive SameWorker : Worker (Ticket Writing) → Worker WriteJob → Prop where
  | idle : SameWorker .idle .idle
  | running {number key job row} (ready : job.row = some row) :
      SameWorker (.running ⟨number, key, ⟨job, none⟩⟩) (.running job)
  | stopped : SameWorker .stopped .stopped
  | dead : SameWorker .dead .dead

theorem SameWorker.ending (ending : Ending) : SameWorker ending.worker ending.worker := by
  cases ending with
  | returned | raised => exact .idle
  | left => exact .dead

structure SamePool (pool : Pool (Ticket Writing)) (other : Pool WriteJob) : Prop where
  name : pool.name = other.name
  capacity : pool.capacity = other.capacity
  closed : pool.closed = other.closed
  spread : pool.spread = other.spread
  size : pool.lanes.length = other.lanes.length
  queue : ∀ index, List.Forall₂ SameEntry (pool.queueAt index) (other.queueAt index)
  worker : ∀ index, SameWorker (pool.workerAt index) (other.workerAt index)

namespace SamePool

variable {pool : Pool (Ticket Writing)} {other after : Pool WriteJob} {index : Nat}

theorem of_create {name : String} {workers queueSize : Int} {spread : Value → Int}
    (created : Pool.create name workers queueSize spread = .ok other) :
    ∃ pool : Pool (Ticket Writing), Pool.create name workers queueSize spread = .ok pool ∧
      SamePool pool other := by
  obtain ⟨some, room, rfl⟩ := Pool.create_eq_ok_iff.mp created
  let pool : Pool (Ticket Writing) :=
    { name, capacity := queueSize.toNat, lanes := .replicate workers.toNat {}, spread }
  have alike : Pool.create name workers queueSize spread = .ok pool :=
    Pool.create_eq_ok_iff.mpr ⟨some, room, rfl⟩
  refine ⟨pool, alike, rfl, rfl, rfl, rfl, ?_, fun index => ?_, fun index => ?_⟩
  · simp only [pool, List.length_replicate]
  · rw [Pool.queueAt_create created, Pool.queueAt_create alike]
    exact .nil
  · rw [Pool.workerAt_create created, Pool.workerAt_create alike]
    exact .idle

theorem setLane (same : SamePool pool other) (inside : index < other.lanes.length)
    {lane : Lane (Ticket Writing)} {otherLane : Lane WriteJob}
    (queue : List.Forall₂ SameEntry lane.queue otherLane.queue)
    (worker : SameWorker lane.worker otherLane.worker) :
    SamePool (pool.setLane index lane) (other.setLane index otherLane) := by
  have here : index < pool.lanes.length := by rw [same.size]; exact inside
  refine ⟨same.name, same.capacity, same.closed, same.spread, ?_, ?_, ?_⟩
  · rw [Pool.setLane_size, Pool.setLane_size, same.size]
  · intro place
    rw [Pool.queueAt_setLane here, Pool.queueAt_setLane inside]
    split
    · exact queue
    · exact same.queue place
  · intro place
    rw [Pool.workerAt_setLane here, Pool.workerAt_setLane inside]
    split
    · exact worker
    · exact same.worker place

theorem setWorker (same : SamePool pool other) (inside : index < other.lanes.length)
    {worker : Worker (Ticket Writing)} {otherWorker : Worker WriteJob}
    (alike : SameWorker worker otherWorker) :
    SamePool (pool.setWorker index worker) (other.setWorker index otherWorker) := by
  rw [Pool.setWorker_eq (same.size ▸ inside), Pool.setWorker_eq inside]
  exact same.setLane inside (same.queue index) alike

/-- What becomes of a batch that is handed in is the same. -/
theorem submit (same : SamePool pool other) {key : Value} {job : WriteJob} {submission : Submission}
    (fresh : job.row = none) (number : Nat)
    (submitted : other.submit key job = (submission, after)) :
    ∃ next, pool.submit key ⟨number, key, ⟨job, none⟩⟩ = (submission, next) ∧
      SamePool next after := by
  unfold Pool.submit at submitted ⊢
  rw [same.closed, same.spread, same.size]
  split at submitted
  · rename_i closed
    cases submitted
    exact ⟨pool, if_pos closed, same⟩
  · rename_i opened
    rw [if_neg opened]
    split at submitted
    · cases submitted
      exact ⟨pool, rfl, same⟩
    · rename_i lane _
      rcases Nat.lt_or_ge lane other.lanes.length with inside | outside
      · rw [Pool.get_of_inside inside] at submitted
        rw [Pool.get_of_inside (same.size ▸ inside), same.capacity]
        dsimp only at submitted ⊢
        rw [(same.queue lane).length_eq]
        split at submitted
        · rename_i room
          cases submitted
          rw [if_pos room]
          have further : List.Forall₂ SameEntry
              (pool.queueAt lane ++ [.job ⟨number, key, ⟨job, none⟩⟩])
              (other.queueAt lane ++ [.job job]) :=
            List.rel_append (same.queue lane) (.cons (.job fresh) .nil)
          exact ⟨_, rfl, same.setLane inside further (same.worker lane)⟩
        · rename_i full
          cases submitted
          exact ⟨pool, if_neg full, same⟩
      · rw [List.getElem?_eq_none outside] at submitted
        rw [List.getElem?_eq_none (same.size ▸ outside)]
        cases submitted
        exact ⟨pool, rfl, same⟩

theorem take (same : SamePool pool other) {entry : Entry WriteJob}
    (taken : other.take index = some (entry, after)) :
    ∃ ticket rest otherRest, index < other.lanes.length ∧ SameEntry ticket entry ∧
      List.Forall₂ SameEntry rest otherRest ∧
      pool.take index = some (ticket, pool.setLane index ⟨rest, ticket.worker⟩) ∧
      after = other.setLane index ⟨otherRest, entry.worker⟩ := by
  obtain ⟨otherRest, inside, idle, queued, rfl⟩ := Pool.take_eq_some taken
  have queue := same.queue index
  have worker := same.worker index
  rw [queued] at queue
  rw [idle] at worker
  rcases waiting : pool.queueAt index with _ | ⟨ticket, rest⟩
  · rw [waiting] at queue
    cases queue
  · rw [waiting] at queue
    obtain ⟨first, others⟩ := List.forall₂_cons.mp queue
    have here : index < pool.lanes.length := by rw [same.size]; exact inside
    rcases resting : pool.workerAt index <;> rw [resting] at worker <;> cases worker
    exact ⟨ticket, rest, otherRest, inside, first, others,
      Pool.take_of_idle here resting waiting, rfl⟩

theorem running (same : SamePool pool other) {job : WriteJob}
    (running : other.running? index = some job) :
    ∃ number key row, index < other.lanes.length ∧ job.row = some row ∧
      pool.running? index = some ⟨number, key, ⟨job, none⟩⟩ := by
  obtain ⟨inside, busy⟩ := Pool.running?_eq_some.mp running
  have worker := same.worker index
  rw [busy] at worker
  rcases writing : pool.workerAt index <;> rw [writing] at worker <;> cases worker
  rename_i number key row ready
  exact ⟨number, key, row, inside, ready,
    Pool.running?_eq_some.mpr ⟨same.size ▸ inside, writing⟩⟩

end SamePool

theorem Database.write_check (database : Database) (sql : String) (row : Row) (site : Site) :
    (database.write sql row).2.check site = database.check site := by
  unfold write insert commit
  split
  · rfl
  · dsimp only
    split
    · rename_i failed
      split at failed <;> cases failed
      rfl
    · rename_i taken
      split at taken <;> cases taken
      split <;> rfl

/-- The same office with a ledger and with a database: the same table, and as many times taken. -/
structure SameOffice (office : Office Ledger) (other : Office Database) : Prop where
  stamps : office.desk.stamps = other.desk.stamps
  table : office.store.table = other.store.table
  commits : other.store.check .commit = .ok ()

namespace SameOffice

variable {office : Office Ledger} {other : Office Database}

theorem noteEach (same : SameOffice office other) (notices others : List Notice) :
    SameOffice (Pool.noteEach notices office) (Pool.noteEach others other) where
  stamps := by rw [Pool.noteEach_eq, Pool.noteEach_eq, same.stamps]
  table := by rw [Pool.noteEach_store, Pool.noteEach_store, same.table]
  commits := by rw [Pool.noteEach_store, same.commits]

theorem begin (same : SameOffice office other) (job : WriteJob) :
    SameOffice (job.begin office).2 (job.begin other).2 where
  stamps := by rw [job.begin_stamps, job.begin_stamps, same.stamps]
  table := same.table
  commits := same.commits

theorem conclude (same : SameOffice office other) (job : WriteJob) (row : Row)
    (outcome : Except Breakdown Unit) :
    SameOffice (job.conclude row outcome office).2 (job.conclude row outcome other).2 where
  stamps := by rw [job.conclude_stamps, job.conclude_stamps, same.stamps]
  table := by rw [job.conclude_store, job.conclude_store, same.table]
  commits := by rw [job.conclude_store, same.commits]

/-- Whatever the database does with a row, a ledger may do too. -/
theorem write (same : SameOffice office other) (sql : String) (write : Write) :
    ∃ ledger, office.store.Answers appended write (other.store.write sql write.row).1 ledger ∧
      SameOffice { office with store := ledger }
        { other with store := (other.store.write sql write.row).2 } := by
  obtain ⟨ledger, answers, table⟩ :=
    Database.write_answers same.commits sql write office.store.written
  rw [← same.table] at answers
  exact ⟨ledger, answers, same.stamps, table,
    (other.store.write_check sql write.row .commit).trans same.commits⟩

end SameOffice

end Store

end Transcript
