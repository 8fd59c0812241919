import Transcript.Proofs.Store.Conversion
import Transcript.Proofs.Store.Tallies

namespace Transcript.Store

variable {σ : Type}

/-- A desk at which at most one more batch is counted than at another: as written on a task path, or
as dropped for a reason. -/
structure CountsMore (before after : Desk) (path? reason? : Option String) : Prop where
  total : after.written = before.written + if path?.isSome then 1 else 0
  paths : ∀ path, after.writtenAs path = before.writtenAs path + if path? = some path then 1 else 0
  drops : ∀ reason, after.dropped reason =
    before.dropped reason + if reason? = some reason then 1 else 0

/-- The task path on which a report counts its batch as written. -/
def Report.path? (report : Report) : Option String :=
  if report.reason? = none then some report.write.row.taskPath else none

theorem countsMore_of_sums {before after : Desk} {path? reason? : Option String}
    {more : (Notice → Int) → Int}
    (sums : ∀ adds, CountsBatches adds → after.sum adds = before.sum adds + more adds)
    (total : more (Notice.addsTo "recorder_batches_written") = if path?.isSome then 1 else 0)
    (paths : ∀ path,
      more (Notice.adds "recorder_batches_written" [(.str "task_path", .str path)]) =
        if path? = some path then 1 else 0)
    (drops : ∀ reason,
      more (Notice.adds "recorder_batches_dropped" [(.str "reason", .str reason)]) =
        if reason? = some reason then 1 else 0) :
    CountsMore before after path? reason? where
  total := by
    rw [Desk.written_eq_sum, Desk.written_eq_sum, sums _ countsWrites_allWritten.toCountsBatches,
      total]
  paths path := by
    rw [Desk.writtenAs_eq_sum, Desk.writtenAs_eq_sum,
      sums _ (countsWrites_written path).toCountsBatches, paths]
  drops reason := by
    rw [Desk.dropped_eq_sum, Desk.dropped_eq_sum, sums _ (countsBatches_adds _ (by simp)), drops]

theorem Report.countsMore {report : Report} {before after : Desk}
    (sums : ∀ adds, CountsBatches adds →
      after.sum adds = before.sum adds + adds report.tally.notice) :
    CountsMore before after report.path? report.reason? := by
  refine countsMore_of_sums sums ?_ (fun path => ?_) report.adds_dropped
  · rw [report.addsTo_written]
    by_cases none : report.reason? = none <;> simp [path?, none]
  · rw [report.adds_written]
    by_cases none : report.reason? = none <;> simp [path?, none]

theorem countsMore_none {before after : Desk}
    (same : ∀ adds, CountsBatches adds → after.sum adds = before.sum adds) :
    CountsMore before after none none :=
  countsMore_of_sums (fun adds counts => (same adds counts).trans (Int.add_zero _).symm)
    rfl (fun _ => rfl) (fun _ => rfl)

theorem Outage.dropReason?_eq_none {outage : Outage} :
    outage.dropReason? = none ↔ outage = .crash := by
  cases outage <;> simp [dropReason?]

theorem WriteJob.conclude_countsMore {job : WriteJob} {row : Row} {outcome : Except Breakdown Unit}
    {office after : Office σ} {returned : Bool} {before : Desk}
    (prepared : ∀ adds, CountsBatches adds → office.desk.sum adds = before.sum adds)
    (concluded : job.conclude row outcome office = (.ok returned, after)) :
    let report : Report := ⟨⟨0, job.batch, job.identity, row⟩, outcome, returned⟩
    CountsMore before after.desk report.path? report.reason? := by
  refine Report.countsMore fun adds counts => ?_
  rw [WriteJob.sum_conclude counts concluded 0, prepared adds counts]

/-- What comes of a batch that is written at once. If nothing fails, the database has taken its row
and it is counted as written; if something fails that the database reports itself, it is counted
as dropped; if the database crashes, it is not counted. After a failure the row is in the table
only if the mishap kept it. -/
inductive WriteJob.ComesTo (job : WriteJob) (before : Office Database) :
    Except Breakdown Bool × Office Database → Prop where
  | written {row after} (undisturbed : before.store.mishap? = none)
      (records : row.Records job.batch job.identity)
      (table : after.store.table = upsert before.store.table row)
      (counts : CountsMore before.desk after.desk (some row.taskPath) none) :
      ComesTo job before (.ok true, after)
  | dropped {mishap row reason after} (met : before.store.mishap? = some mishap)
      (known : mishap.breakdown.outage.dropReason? = some reason)
      (records : row.Records job.batch job.identity)
      (table : after.store.table =
        if mishap.kept then upsert before.store.table row else before.store.table)
      (counts : CountsMore before.desk after.desk none (some reason)) :
      ComesTo job before (.ok false, after)
  | crashed {mishap row after} (met : before.store.mishap? = some mishap)
      (crash : mishap.breakdown.outage = .crash)
      (records : row.Records job.batch job.identity)
      (table : after.store.table =
        if mishap.kept then upsert before.store.table row else before.store.table)
      (counts : CountsMore before.desk after.desk none none) :
      ComesTo job before (.error mishap.breakdown, after)

def tableAfter (table : Table) (row : Row) : Option Mishap → Table
  | none => upsert table row
  | some mishap => if mishap.kept then upsert table row else table

theorem answer_appended (mishap? : Option Mishap) (table : Table) (row : Row) :
    answer appended mishap? table row = (Mishap.outcome mishap?, tableAfter table row mishap?) := by
  rw [answer, upsertWith_appended]
  cases mishap? with
  | none => rfl
  | some mishap =>
    obtain ⟨breakdown, kept⟩ := mishap
    cases kept <;> rfl

theorem WriteJob.run_eq_conclude {job : WriteJob} (nonempty : job.batch ≠ [])
    (office : Office Database) :
    ((job.run office).1, tableOffice (job.run office).2) =
      job.conclude (job.prepareRow office.desk).1 (Mishap.outcome office.store.mishap?)
        ⟨(job.prepareRow office.desk).2, tableAfter office.store.table
          (job.prepareRow office.desk).1 office.store.mishap?⟩ := by
  rw [run_eq_writeWith, writeWith, if_neg (by simpa using nonempty)]
  simp only [answer_appended]
  rfl

/-- A batch that is not empty is written or dropped and counted as that, if the database does not
crash. -/
theorem WriteJob.comesTo_run {job : WriteJob} (nonempty : job.batch ≠ [])
    (office : Office Database) : job.ComesTo office (job.run office) := by
  have records := job.prepareRow_records office.desk
  have prepared (adds : Notice → Int) (counts : CountsBatches adds) :=
    WriteJob.sum_prepareRow counts job office.desk
  have concluded := run_eq_conclude nonempty office
  generalize (job.prepareRow office.desk).1 = row at records concluded
  generalize (job.prepareRow office.desk).2 = desk at prepared concluded
  generalize job.run office = come at concluded ⊢
  obtain ⟨result, after⟩ := come
  have table : after.store.table = tableAfter office.store.table row office.store.mishap? := by
    simpa [tableOffice] using congrArg (fun come => come.2.store) concluded
  cases met : office.store.mishap? with
  | none =>
    rw [met] at concluded table
    cases congrArg Prod.fst concluded
    exact .written met records table (conclude_countsMore prepared concluded.symm)
  | some mishap =>
    rw [met] at concluded table
    cases known : mishap.breakdown.outage.dropReason? with
    | some reason =>
      have dropped : result = .ok false := by
        simpa [conclude, Mishap.outcome, known] using congrArg Prod.fst concluded
      subst dropped
      refine .dropped met known records table ?_
      have counts := conclude_countsMore prepared concluded.symm
      simpa [Report.path?, Report.reason?, Mishap.outcome, known, tableOffice] using counts
    | none =>
      have crashed : result = .error mishap.breakdown := by
        simpa [conclude, Mishap.outcome, known] using congrArg Prod.fst concluded
      subst crashed
      have same : after.desk = desk := by
        simpa [conclude, Mishap.outcome, known, tableOffice] using
          congrArg (fun come => come.2.desk) concluded
      exact .crashed met (Outage.dropReason?_eq_none.mp known) records table
        (same ▸ countsMore_none prepared)

end Transcript.Store
