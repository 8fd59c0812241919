import Transcript.Proofs.Store.Reporting

namespace Transcript.Store

open Pool (System Step Run Ticket)

variable {schema : String} {join : String → String → Option String}
variable {system next : System Writing Register}

def Ledger.numbers (ledger : Ledger) : List Nat := ledger.written.map Write.number

/-- A write ends and is reported. -/
structure Concludes (system next : System Writing Register) (lane : Nat) (ticket : Ticket Writing)
    (report : Report) : Prop where
  running : system.pool.workerAt lane = .running ticket
  answer : ticket.job.answer = some report.outcome
  row : ticket.job.job.row = some report.write.row
  write : report.write = writeOf ticket report.write.row
  sound : report.IsSound
  ledger : next.office.store.ledger = system.office.store.ledger
  reports : next.office.store.reports = system.office.store.reports ++ [report]
  log : next.log = system.log ++ [.ended ticket.number lane .returned]

/-- A turn reports a write that ends in it, or nothing ends and nothing is reported. -/
theorem report_step (step : Step (reporting schema join) system next) :
    (next.office.store.reports = system.office.store.reports ∧
        Pool.ended next.log = Pool.ended system.log) ∨
      ∃ lane ticket report, Concludes system next lane ticket report := by
  cases step.effect with
  | moved _ _ _ _ _ moves _ log => exact .inl ⟨moves.2.1, by rw [log]⟩
  | ended ticket ending lane _ running _ log _ _ settled =>
    obtain ⟨office, ends, store⟩ := settled
    obtain ⟨number, key, writing⟩ := ticket
    cases ends with
    | @concluded job row outcome returned _ after ready concluded =>
      have kept : after.store = system.office.store := by
        rw [← WriteJob.conclude_store job row outcome system.office, concluded]
      let report : Report := ⟨⟨number, job.batch, job.identity, row⟩, outcome, returned⟩
      exact .inr ⟨lane, _, report, running, rfl, ready, rfl, WriteJob.conclude_isSound concluded _,
        by rw [store, kept], by rw [store, kept], log⟩
  | nothing _ log _ _ store => exact .inl ⟨by rw [store], by rw [log]⟩
  | accepted _ _ _ _ _ _ _ _ log _ _ _ store =>
    exact .inl ⟨by rw [store], by simp [log, Pool.ended]⟩
  | refused _ _ _ _ log _ _ store => exact .inl ⟨by rw [store], by simp [log, Pool.ended]⟩
  | started _ _ _ _ _ _ _ log _ _ store => exact .inl ⟨by rw [store], by simp [log, Pool.ended]⟩
  | stopped _ _ _ _ _ _ log _ _ store => exact .inl ⟨by rw [store], by rw [log]⟩
  | closed _ _ _ log _ _ store => exact .inl ⟨by rw [store], by rw [log]⟩
  | removed entry _ _ _ _ _ log _ _ _ _ _ store =>
    refine .inl ⟨by rw [store], ?_⟩
    cases entry <;> simp [log, Pool.ended, Pool.Event.removal]
  | marked _ _ _ _ log _ _ _ _ _ store => exact .inl ⟨by rw [store], by simp [log, Pool.ended]⟩
  | passed _ log _ _ _ _ _ store => exact .inl ⟨by rw [store], by rw [log]⟩

theorem Writing.Moves.unsuccessful {now after : Writing} {number : Nat}
    {earlier later : Office Ledger} (moves : Writing.Moves join number now earlier after later)
    (same : later.store = earlier.store) :
    now.answer = none ∧ after.answer ≠ some (.ok ()) := by
  cases moves with
  | prepared => exact ⟨rfl, nofun⟩
  | answered _ answers =>
    refine ⟨rfl, ?_⟩
    cases answers with
    | took =>
      have lengths := congrArg (fun ledger => ledger.written.length) same
      simp at lengths
    | failed => simp

/-- The ledger holds the write of a running job exactly when the database has taken it. -/
structure Ledger.Knows (ledger : Ledger) (ticket : Ticket Writing) : Prop where
  took : ticket.job.answer = some (.ok ()) → ∀ row, ticket.job.job.row = some row →
    writeOf ticket row ∈ ledger.written
  kept : ticket.job.answer ≠ some (.ok ()) → ticket.number ∉ ledger.numbers

/-- The ledger holds the write of a report exactly when it says so. -/
structure Ledger.Confirms (ledger : Ledger) (report : Report) : Prop where
  sound : report.IsSound
  took : report.returned = true → report.write ∈ ledger.written
  kept : report.returned = false → report.write.number ∉ ledger.numbers

section Snoc

variable {ledger grown : Ledger} {write : Write}
  (written : grown.written = ledger.written ++ [write])
include written

theorem Ledger.numbers_snoc : grown.numbers = ledger.numbers ++ [write.number] := by
  rw [numbers, written, List.map_append]
  rfl

theorem Ledger.Knows.snoc {ticket : Ticket Writing} (knows : ledger.Knows ticket)
    (other : ticket.number ≠ write.number) : grown.Knows ticket where
  took answer row prepared := by
    rw [written]
    exact List.mem_append_left _ (knows.took answer row prepared)
  kept answer member := by
    rw [numbers_snoc written, List.mem_append, List.mem_singleton] at member
    exact member.elim (knows.kept answer) other

theorem Ledger.Confirms.snoc {report : Report} (confirms : ledger.Confirms report)
    (other : report.write.number ≠ write.number) : grown.Confirms report where
  sound := confirms.sound
  took returned := by
    rw [written]
    exact List.mem_append_left _ (confirms.took returned)
  kept dropped member := by
    rw [numbers_snoc written, List.mem_append, List.mem_singleton] at member
    exact member.elim (confirms.kept dropped) other

omit written in
theorem Ledger.knows_taken {ticket : Ticket Writing} {row : Row}
    (written : grown.written = ledger.written ++ [writeOf ticket row])
    (prepared : ticket.job.job.row = some row) :
    grown.Knows { ticket with job := ⟨ticket.job.job, some (.ok ())⟩ } where
  took _ other again := by
    cases prepared.symm.trans again
    rw [written]
    exact List.mem_append_right _ List.mem_cons_self
  kept unanswered := absurd rfl unanswered

end Snoc

/-- The ledger, the reports and the jobs that run agree. -/
structure Registered (system : System Writing Register) : Prop where
  ended : system.office.store.reports.map (fun report => report.write.number) =
    Pool.ended system.log
  once : system.office.store.ledger.numbers.Nodup
  begun : ∀ number ∈ system.office.store.ledger.numbers, number ∈ Pool.started system.log
  running : ∀ lane ticket, system.pool.workerAt lane = .running ticket →
    system.office.store.ledger.Knows ticket
  reported : ∀ report ∈ system.office.store.reports, system.office.store.ledger.Confirms report

/-- What is reported in a turn is what the ledger knows of the job that ends. -/
theorem Concludes.confirms {lane : Nat} {ticket : Ticket Writing} {report : Report}
    (concludes : Concludes system next lane ticket report)
    (knows : system.office.store.ledger.Knows ticket) :
    system.office.store.ledger.Confirms report := by
  refine ⟨concludes.sound, fun returned => ?_, fun dropped => ?_⟩
  · rw [concludes.write]
    refine knows.took ?_ _ concludes.row
    rw [concludes.answer, concludes.sound.returned.mp returned]
  · rw [concludes.write]
    refine knows.kept fun answer => ?_
    have success : report.outcome = .ok () := Option.some.inj (concludes.answer.symm.trans answer)
    rw [concludes.sound.returned.mpr success] at dropped
    cases dropped

theorem Writing.Offered.unanswered {key : Value} {writing : Writing}
    (offered : Writing.Offered schema key writing) : writing.answer = none := by
  cases offered
  rfl

theorem started_mono {first last : System Writing Register}
    (run : Run (reporting schema join) first last) {number : Nat}
    (begun : number ∈ Pool.started first.log) : number ∈ Pool.started last.log :=
  (run.log_prefix.filterMap _).subset begun

section Fresh

variable {name : String} {workers queueSize : Int} {spread : Value → Int}
variable {pool : Pool (Ticket Writing)} {table : Table} {desk : Desk}
variable (created : Pool.create name workers queueSize spread = .ok pool)
  (run : Run (reporting schema join) (.start pool { desk, store := { ledger := { table } } })
    system)
include created run

/-- A queued batch has not been to the database. -/
theorem knows_queued (registered : Registered system) {lane : Nat} {ticket : Ticket Writing}
    (queued : .job ticket ∈ system.pool.queueAt lane) :
    system.office.store.ledger.Knows ticket := by
  have stems : Pool.StemsFrom (fun _ _ => True) system :=
    run.stemsFrom created (fun _ => trivial) fun _ _ => trivial
  have fresh := (run.offered (stems.1 lane ticket queued)).unanswered
  refine ⟨fun answer => ?_, fun _ member => ?_⟩
  · cases fresh.symm.trans answer
  · have waiting : ticket.number ∈ Pool.queuedIn system.pool lane :=
      Pool.mem_numbers.mpr ⟨ticket, queued, rfl⟩
    exact run.not_started_of_queued created waiting (registered.begun _ member)

/-- What the ledger knows stays known in a turn that leaves it alone. -/
theorem registered_keep (registered : Registered system)
    (step : Step (reporting schema join) system next)
    (same : next.office.store.ledger = system.office.store.ledger) : Registered next := by
  have grown : Run (reporting schema join) system next := Run.here.turn step
  refine ⟨?_, same ▸ registered.once, ?_, ?_, ?_⟩
  · rcases report_step step with ⟨reports, ended⟩ | ⟨lane, ticket, report, concludes⟩
    · rw [reports, ended, registered.ended]
    · have number : report.write.number = ticket.number := by rw [concludes.write]; rfl
      simp [concludes.reports, concludes.log, registered.ended, Pool.ended, number]
  · intro number member
    rw [same] at member
    exact started_mono grown (registered.begun number member)
  · intro lane ticket running
    rw [same]
    rcases step.effect.running running with before | queued | ⟨old, job, before, rfl, moved⟩
    · exact registered.running lane ticket before
    · exact knows_queued created run registered queued
    · obtain ⟨waiting, unsuccessful⟩ := Writing.Moves.unsuccessful moved.1 same
      have knows := registered.running lane old before
      refine ⟨fun answer => absurd answer unsuccessful, fun _ => knows.kept ?_⟩
      rw [waiting]
      exact nofun
  · intro report member
    rw [same]
    rcases report_step step with ⟨reports, _⟩ | ⟨lane, ticket, other, concludes⟩
    · exact registered.reported report (reports ▸ member)
    · rw [concludes.reports, List.mem_append] at member
      rcases member with old | new
      · exact registered.reported report old
      · cases List.mem_singleton.mp new
        exact concludes.confirms (registered.running lane ticket concludes.running)

/-- The number of a running job is not that of another one, nor of one that is reported. -/
theorem running_apart (registered : Registered system) {lane : Nat} {ticket : Ticket Writing}
    (running : system.pool.workerAt lane = .running ticket) :
    (∀ other also, other ≠ lane → system.pool.workerAt other = .running also →
      also.number ≠ ticket.number) ∧
    ∀ report ∈ system.office.store.reports, report.write.number ≠ ticket.number := by
  have here := Pool.running_inLane running
  constructor
  · intro other also elsewhere active same
    have there := Pool.running_inLane active
    rw [same] at there
    exact elsewhere (run.stands_alone created there here).1
  · intro report member same
    have finished : report.write.number ∈ Pool.ended system.log := by
      rw [← registered.ended]
      exact List.mem_map_of_mem member
    obtain ⟨other, there⟩ := Pool.mem_ended.mp finished
    have ended : ticket.number ∈ system.inLane other .ended := same ▸ there
    cases (run.stands_alone created here ended).2

/-- The ledger knows of a write that the database takes. -/
theorem registered_take (registered : Registered system)
    (step : Step (reporting schema join) system next) {lane : Nat} {ticket : Ticket Writing}
    {row : Row} (takes : Takes join (system.view Register.ledger) (next.view Register.ledger)
      lane ticket row) : Registered next := by
  have written : next.office.store.ledger.written =
    system.office.store.ledger.written ++ [writeOf ticket row] := takes.written
  have inside : lane < system.pool.lanes.length := takes.inside
  have running : system.pool.workerAt lane = .running ticket := takes.running
  have log : next.log = system.log := takes.log
  have pool : next.pool = system.pool.setLane lane ⟨system.pool.queueAt lane,
      .running { ticket with job := ⟨ticket.job.job, some (.ok ())⟩ }⟩ := takes.answered
  have fresh : ticket.number ∉ system.office.store.ledger.numbers := by
    apply (registered.running lane ticket running).kept
    rw [takes.waiting]
    exact nofun
  have reports : next.office.store.reports = system.office.store.reports := by
    rcases report_step step with ⟨same, _⟩ | ⟨_, _, _, concludes⟩
    · exact same
    · have lengths := congrArg List.length (concludes.log.symm.trans log)
      simp at lengths
  obtain ⟨otherJobs, otherReports⟩ := running_apart created run registered running
  constructor
  case ended => rw [reports, log, registered.ended]
  case once =>
    rw [Ledger.numbers_snoc written, ← List.concat_eq_append]
    exact registered.once.concat fresh
  case begun =>
    intro number member
    rw [Ledger.numbers_snoc written, List.mem_append] at member
    rw [log]
    rcases member with old | new
    · exact registered.begun number old
    · cases List.mem_singleton.mp new
      exact run.started_of_running created running
  case running =>
    intro other also active
    rw [pool, Pool.workerAt_setLane inside] at active
    split at active
    · cases active
      exact Ledger.knows_taken written takes.prepared
    · rename_i elsewhere
      apply (registered.running other also active).snoc written
      exact otherJobs other also elsewhere active
  case reported =>
    intro report member
    rw [reports] at member
    exact (registered.reported report member).snoc written (otherReports report member)

omit run in
theorem registered
    (run : Run (reporting schema join) (.start pool { desk, store := { ledger := { table } } })
      system) : Registered system := by
  induction run with
  | here =>
    constructor <;>
      simp [System.start, Ledger.numbers, Pool.ended, Pool.workerAt_create created]
  | turn run step ih =>
    rcases ledger_step (step.view reporting_refines) with same | ⟨lane, ticket, row, takes⟩
    · exact registered_keep created run ih step same
    · exact registered_take created run ih step takes

end Fresh

end Transcript.Store
