import Transcript.Proofs.Store.Calls
import Transcript.Proofs.Store.Tallies
import Transcript.Proofs.TaskPath

namespace Transcript

def Desk.anomalies (desk : Desk) : Int := desk.counters.total "recorder_task_path_anomaly"

def Notice.anomalies : Notice → Int := Notice.addsTo "recorder_task_path_anomaly"

theorem Desk.anomalies_eq_sum (desk : Desk) : desk.anomalies = desk.sum Notice.anomalies :=
  Counters.total_ofNotices _ _

theorem Notice.anomalies_uncounted {notice : Notice} (uncounted : notice.isCounted = false) :
    notice.anomalies = 0 := by
  cases notice <;> first | rfl | cases uncounted

/-- Whether a tally is about a mixed batch. -/
def Tally.isAnomaly : Tally → Bool
  | .anomaly _ => true
  | .unwritable _ | .nul _ | .dropped .. | .written _ => false

theorem Tally.anomalies_other {tally : Tally} (other : tally.isAnomaly = false) :
    tally.notice.anomalies = 0 := by
  cases tally with
  | anomaly tag => cases other
  | unwritable | nul | dropped | written => simp [Notice.anomalies, notice, Notice.addsTo, series]

theorem Desk.anomalies_note {notice : Notice} (none : notice.anomalies = 0) (desk : Desk) :
    (desk.note notice).anomalies = desk.anomalies := by
  rw [anomalies_eq_sum, sum_note, none, Int.add_zero, anomalies_eq_sum]

theorem Desk.anomalies_pair {notice : Notice} (uncounted : notice.isCounted = false) {tally : Tally}
    (other : tally.isAnomaly = false) (desk : Desk) :
    ((desk.note notice).note tally.notice).anomalies = desk.anomalies := by
  rw [anomalies_note (Tally.anomalies_other other),
    anomalies_note (Notice.anomalies_uncounted uncounted)]

theorem Pool.AreOwn.anomalies {σ : Type} {notices : List Notice} (own : Pool.AreOwn notices)
    (office : Office σ) :
    (Pool.noteEach notices office).desk.anomalies = office.desk.anomalies := by
  rw [Desk.anomalies_eq_sum, Desk.anomalies_eq_sum]
  exact own.sum_noteEach (fun _ uncounted => Notice.anomalies_uncounted uncounted)
    (fun _ _ _ => Tally.anomalies_other rfl) office

namespace Store

open Pool (System Step Run Ticket)

variable {schema : String} {join : String → String → Option String}
variable {system next : System Writing Ledger}

/-- A batch whose messages all carry one intent, or none. -/
def Batch.IsUniform (batch : Batch) : Prop := ∃ intent, TaskPath.Carry intent batch.1

theorem anomalies_document (batch : List Message) (identity : Identity) (desk : Desk) :
    (document batch identity desk).2.anomalies = desk.anomalies := by
  unfold document
  split
  · exact Desk.anomalies_pair rfl rfl desk
  · dsimp only
    split
    · rfl
    · exact Desk.anomalies_pair rfl rfl desk

theorem WriteJob.anomalies_prepareRow {job : WriteJob} {intent : Option Intent}
    (carry : TaskPath.Carry intent job.batch) (some : job.batch ≠ []) (desk : Desk) :
    (job.prepareRow desk).2.anomalies = desk.anomalies := by
  unfold prepareRow
  simp only [carry.classify some]
  exact anomalies_document job.batch job.identity desk

theorem WriteJob.anomalies_conclude {σ : Type} (job : WriteJob) (row : Row)
    (outcome : Except Breakdown Unit) (office : Office σ) :
    (job.conclude row outcome office).2.desk.anomalies = office.desk.anomalies := by
  unfold conclude
  split
  · exact Desk.anomalies_pair rfl rfl office.desk
  · rename_i breakdown
    split
    · refine Desk.anomalies_pair ?_ rfl office.desk
      cases breakdown.outage <;> rfl
    · rfl

theorem Writing.Moves.anomalies {now next : Writing} {number : Nat} {before after : Office Ledger}
    (moves : Writing.Moves join number now before next after) (some : now.job.batch ≠ [])
    {intent : Option Intent} (carry : TaskPath.Carry intent now.job.batch) :
    after.desk.anomalies = before.desk.anomalies := by
  cases moves with
  | prepared => exact WriteJob.anomalies_prepareRow carry some _
  | answered => rfl

theorem Writing.Ends.anomalies {now : Writing} {ending : Ending} {before after : Office Ledger}
    (ends : Writing.Ends now before ending after) :
    after.desk.anomalies = before.desk.anomalies := by
  cases ends
  exact WriteJob.anomalies_conclude _ _ _ _

theorem Writing.Offered.nonempty {key : Value} {writing : Writing}
    (offered : Writing.Offered schema key writing) : writing.job.batch ≠ [] := by
  cases offered
  assumption

section Fresh

variable {name : String} {workers queueSize : Int} {spread : Value → Int}
variable {pool : Pool (Ticket Writing)} {table : Table} {desk : Desk}
variable (created : Pool.create name workers queueSize spread = .ok pool)
  (run : Run (recording schema join) (.start pool { desk, store := { table } }) system)
include created run

theorem running_handedIn {lane : Nat} {ticket : Ticket Writing}
    (running : system.pool.workerAt lane = .running ticket) :
    ticket.job.job.batch ≠ [] ∧
      (ticket.job.job.batch, ticket.job.job.identity) ∈ handedIn system.log := by
  obtain ⟨start, accepted, continues, offered⟩ := running_write created run running
  constructor
  · rw [continues.batch]
    exact offered.nonempty
  · rw [continues.batch, continues.identity]
    exact List.mem_filterMap.mpr ⟨_, accepted, rfl⟩

theorem anomalies_step (step : Step (recording schema join) system next)
    (uniform : ∀ batch ∈ handedIn system.log, batch.IsUniform) :
    next.office.desk.anomalies = system.office.desk.anomalies := by
  refine step.keepsReading_of_running (fun office => office.desk.anomalies)
    (fun notices own office => own.anomalies office) ?_ ?_
  · intro lane ticket job after running moves
    obtain ⟨some, member⟩ := running_handedIn created run running
    obtain ⟨intent, carry⟩ := uniform _ member
    exact Writing.Moves.anomalies moves some carry
  · intro lane ticket ending after _ ends
    exact Writing.Ends.anomalies ends

/-- Where no batch is mixed, none is counted as mixed. -/
theorem anomalies_run (uniform : ∀ batch ∈ handedIn system.log, batch.IsUniform) :
    system.office.desk.anomalies = desk.anomalies := by
  induction run with
  | here => rfl
  | @turn here there run step ih =>
    have grown := Run.log_prefix (.turn .here step)
    have earlier : ∀ batch ∈ handedIn here.log, batch.IsUniform := fun batch member =>
      uniform batch ((grown.filterMap handedIn?).subset member)
    exact (anomalies_step created run step earlier).trans (ih earlier)

/-- A row is labelled as it was at first, or, where there was none, as the batch that it began
with. -/
theorem taskPath_of_row {thread checkpoint : String} {row : Row}
    (found : find? system.office.store.table (.str thread) (.str checkpoint) = some row) :
    match find? table (.str thread) (.str checkpoint) with
    | some old => row.taskPath = old.taskPath
    | none => ∃ write rest, system.office.store.under thread checkpoint = write :: rest ∧
        write.batch ≠ [] ∧ (write.batch, write.identity) ∈ handedIn system.log ∧
        row.taskPath = (TaskPath.ofIntents (TaskPath.intents write.batch)).name := by
  have reflects : Reflects (fun _ (_ : List Json) => True) id _ _ _ :=
    reflects_run (fun _ => trivial) (fun _ _ _ => trivial) created run thread checkpoint
  have label := reflects.taskPath row found
  split
  · rename_i old before
    rw [before] at label
    exact Option.some.inj label
  · rename_i before
    rw [before] at label
    cases writes : system.office.store.under thread checkpoint with
    | nil => simp [writes] at label
    | cons write rest =>
      rw [writes] at label
      have member : write ∈ system.office.store.under thread checkpoint :=
        writes ▸ List.mem_cons_self
      obtain ⟨records, ticket, lane, accepted, _, _, batch, identity⟩ :=
        written_comesFrom created run (List.mem_filter.mp member).1
      refine ⟨write, rest, rfl, batch ▸ (run.offered accepted).nonempty, ?_,
        (Option.some.inj label).trans records.taskPath⟩
      rw [← batch, ← identity]
      exact List.mem_filterMap.mpr ⟨_, accepted, rfl⟩

end Fresh

end Store

end Transcript
