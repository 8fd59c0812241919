import Transcript.Proofs.Pool.Endings
import Transcript.Proofs.Pool.Load
import Transcript.Proofs.Pool.View
import Transcript.Proofs.Store.Ledger
import Transcript.Proofs.Store.Tallies

namespace Transcript.Store

open Pool (System Step Run Ticket)

/-- A ledger with the reports of the writes that ended, in order. -/
structure Register where
  ledger : Ledger
  reports : List Report := []

namespace Writing

/-- The database has not crashed in the middle of the write. -/
def IsAnswerable (writing : Writing) : Prop :=
  ∀ breakdown, writing.answer = some (.error breakdown) → breakdown.outage ≠ .crash

/-- A write ends by noting what the database answered and reporting what came of it. -/
inductive Reports (number : Nat) :
    Writing → Office Register → Ending → Office Register → Prop where
  | concluded {job row outcome returned office after} (ready : job.row = some row)
      (concluded : job.conclude row outcome office = (.ok returned, after)) :
      Reports number ⟨job, some outcome⟩ office (WriteJob.ending (.ok returned))
        { after with store := { after.store with
            reports := after.store.reports ++
              [⟨⟨number, job.batch, job.identity, row⟩, outcome, returned⟩] } }

end Writing

/-- Batches that are written to a schema of a database, and what came of them. -/
def reporting (schema : String) (join : String → String → Option String) :
    Pool.Conduct Writing Register where
  offers := Writing.Offered schema
  moves ticket before job after :=
    Writing.Moves join ticket.number ticket.job (before.view Register.ledger) job
        (after.view Register.ledger) ∧
      after.store.reports = before.store.reports ∧ job.IsAnswerable
  ends ticket := Writing.Reports ticket.number ticket.job

variable {schema : String} {join : String → String → Option String} {adds : Notice → Int}
variable {system next : System Writing Register}

theorem WriteJob.conclude_view {σ τ : Type} (see : σ → τ) (job : WriteJob) (row : Row)
    (outcome : Except Breakdown Unit) (office : Office σ) :
    job.conclude row outcome (office.view see) =
      ((job.conclude row outcome office).1, (job.conclude row outcome office).2.view see) := by
  unfold conclude
  split
  · rfl
  · split <;> rfl

/-- Without its reports, a write that reports is a write at work. -/
theorem reporting_refines :
    (reporting schema join).Refines Register.ledger (recording schema join) where
  offers _ _ offered := offered
  moves _ _ _ _ moves := moves.1
  ends ticket before ending after ends := by
    obtain ⟨number, key, writing⟩ := ticket
    cases ends with
    | @concluded job row outcome returned _ after ready concluded =>
      have seen := WriteJob.conclude_view Register.ledger job row outcome before
      rw [concluded] at seen
      have same : Writing.Ends ⟨job, some outcome⟩ (before.view Register.ledger)
          (WriteJob.ending (job.conclude row outcome (before.view Register.ledger)).1)
          (job.conclude row outcome (before.view Register.ledger)).2 := .concluded ready
      rw [seen] at same
      exact same

def reported (adds : Notice → Int) (reports : List Report) : Int :=
  (reports.map fun report => adds report.tally.notice).sum

theorem reported_snoc (adds : Notice → Int) (reports : List Report) (report : Report) :
    reported adds (reports ++ [report]) = reported adds reports + adds report.tally.notice := by
  simp [reported]

theorem Writing.Moves.sum (counts : CountsBatches adds) {now next : Writing} {number : Nat}
    {before after : Office Ledger} (moves : Writing.Moves join number now before next after) :
    after.desk.sum adds = before.desk.sum adds := by
  cases moves with
  | prepared => exact WriteJob.sum_prepareRow counts _ _
  | answered => rfl

/-- What a write that ends adds to the counts is what it reports. -/
theorem Writing.Reports.counted (counts : CountsBatches adds) {writing : Writing} {number : Nat}
    {ending : Ending} {before after : Office Register}
    (ends : writing.Reports number before ending after) :
    ∃ report, after.store.reports = before.store.reports ++ [report] ∧
      after.desk.sum adds = before.desk.sum adds + adds report.tally.notice := by
  cases ends with
  | @concluded job row outcome returned _ after ready concluded =>
    have store : after.store = before.store := by
      rw [← WriteJob.conclude_store job row outcome before, concluded]
    exact ⟨_, by rw [store], WriteJob.sum_conclude counts concluded number⟩

/-- The counts of writes agree with the reports at any time. -/
theorem sum_eq_reported (counts : CountsWrites adds) {pool : Pool (Ticket Writing)} {table : Table}
    {desk : Desk}
    (run : Run (reporting schema join) (.start pool { desk, store := { ledger := { table } } })
      system) :
    system.office.desk.sum adds = desk.sum adds + reported adds system.office.store.reports := by
  let reading (office : Office Register) : Int :=
    office.desk.sum adds - reported adds office.store.reports
  have same : reading system.office = desk.sum adds := by
    induction run with
    | here => simp [reading, System.start, reported]
    | turn _ step ih =>
      refine (step.keepsReading ?_ ?_ ?_).trans ih
      · intro notices own office
        simp only [reading, Pool.sum_noteEach_of_own counts own, Pool.noteEach_store]
      · intro ticket earlier job after moves
        have desk : after.desk.sum adds = earlier.desk.sum adds :=
          Writing.Moves.sum counts.toCountsBatches moves.1
        simp only [reading, desk, moves.2.1]
      · intro ticket earlier ending after ends
        obtain ⟨report, grown, sum⟩ := Writing.Reports.counted counts.toCountsBatches ends
        simp only [reading, grown, sum, reported_snoc]
        omega
  simp only [reading] at same
  omega

/-- Writes leave the counting of what the pool drops to the pool. -/
theorem reporting_discreet : (reporting schema join).Discreet := by
  have counts (reason : String) : CountsBatches
      (Notice.adds "recorder_batches_dropped" [(.str "reason", .str reason)]) :=
    countsBatches_adds _ (by simp)
  constructor
  · intro ticket before job after moves reason _
    rw [Desk.dropped_eq_sum, Desk.dropped_eq_sum]
    exact Writing.Moves.sum (counts reason) moves.1
  · intro ticket before ending after ends reason own
    obtain ⟨report, _, sum⟩ := Writing.Reports.counted (counts reason) ends
    have other : report.reason? ≠ some reason := by
      intro dropped
      have known := Report.reason?_mem dropped
      simp only [writeReasons, List.mem_cons, List.not_mem_nil, or_false] at known
      rcases known with rfl | rfl <;>
        simp [Pool.Refusal.reason, Pool.abandonedReason] at own
    rw [Desk.dropped_eq_sum, Desk.dropped_eq_sum, sum, Report.adds_dropped, if_neg other,
      Int.add_zero]

end Transcript.Store
